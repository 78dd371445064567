import CutieProxy.Lib.Transition
import CutieProxy.Net.Packet
import Mathlib.Data.List.InsertIdx

/-!
# The static filters and the driver's table

`static_filters` keeps the filters it was given in `filters_`, beside the table of `STATIC_FILTER`
entries that the driver reads, and both are addressed by position. Every operation that changes one
filter asks the driver first and changes `filters_` when the driver did; `reset` clears `filters_`
first, so a driver that fails leaves a table the positions no longer fit (`reset_leaves_table`).
`Mirrored` is what the positions rely on, and `table_in_step` says in which runs it is kept;
`removeFiltersIf_remaining` says what the loop of `remove_filters_if` leaves.

The structures of the driver are not part of the source. A mask of valid fields is a `Bool` for each
of its flags, and a union is the member that was written to it.
-/

namespace CutieProxy

open Transition

/-! ## `filter` -/

/-- `direction_t`: `in`, `out` and `both`. -/
inductive Direction where
  | incoming
  | outgoing
  | both
  deriving DecidableEq, Repr

/-- `action_t`. -/
inductive FilterAction where
  | pass
  | drop
  | redirect
  | passRedirect
  | dropRedirect
  deriving DecidableEq, Repr

/-- `net::mac_address`. -/
abbrev MacAddress := Vector UInt8 6

/-- `ndisapi::filter`. -/
structure Filter (T : IpFamily) where
  adapterHandle : UInt64 := 0
  sourceHwAddress : Option MacAddress := none
  destHwAddress : Option MacAddress := none
  etherType : Option UInt16 := none
  sourceAddress : Option (Subnet T) := none
  destAddress : Option (Subnet T) := none
  sourcePort : Option (UInt16 × UInt16) := none
  destPort : Option (UInt16 × UInt16) := none
  protocol : Option UInt8 := none
  direction : Direction := .both
  action : FilterAction := .pass
  deriving DecidableEq

/-- An element of `filters_`, a `std::variant`. -/
abbrev FilterVariant := (T : IpFamily) × Filter T

/-- `std::visit` with a function on the filters of one family. -/
def FilterVariant.satisfies {T : IpFamily} (predicate : Filter T → Bool) : FilterVariant → Bool
  | ⟨U, f⟩ => if h : U = T then predicate (h ▸ f) else false

/-- The filters that satisfy a predicate are those of its family on which it holds. -/
theorem FilterVariant.satisfies_iff {T : IpFamily} {predicate : Filter T → Bool}
    {f : FilterVariant} :
    f.satisfies predicate = true ↔ ∃ g : Filter T, f = ⟨T, g⟩ ∧ predicate g = true := by
  obtain ⟨U, f⟩ := f
  constructor
  · intro h
    by_cases hfamily : U = T
    · subst hfamily
      exact ⟨f, rfl, by simpa [satisfies] using h⟩
    · simp [satisfies, hfamily] at h
  · rintro ⟨g, heq, hg⟩
    cases heq
    simpa [satisfies] using hg

/-! ## `STATIC_FILTER` -/

/-- The data link filter `m_Eth8023Filter`. -/
structure Eth8023Filter where
  srcAddressValid : Bool := false
  destAddressValid : Bool := false
  protocolValid : Bool := false
  srcAddress : MacAddress := Vector.replicate 6 0
  destAddress : MacAddress := Vector.replicate 6 0
  protocol : UInt16 := 0
  deriving DecidableEq

/-- An address of a network filter. -/
structure AddressField (T : IpFamily) where
  /-- `m_AddressType` is `IP_SUBNET_V4_TYPE` or `IP_SUBNET_V6_TYPE`. -/
  isSubnet : Bool := false
  ip : T.Address := default
  ipMask : T.Address := default
  deriving DecidableEq

/-- The network filters `m_IPv4` and `m_IPv6`. -/
structure IpFilter (T : IpFamily) where
  srcAddressValid : Bool := false
  destAddressValid : Bool := false
  protocolValid : Bool := false
  srcAddress : AddressField T := {}
  destAddress : AddressField T := {}
  protocol : UInt8 := 0
  deriving DecidableEq

/-- The transport filter `m_TcpUdp`, with the two ends of a range of ports. -/
structure TcpUdpFilter where
  srcPortValid : Bool := false
  destPortValid : Bool := false
  sourcePort : UInt16 × UInt16 := (0, 0)
  destPort : UInt16 × UInt16 := (0, 0)
  deriving DecidableEq

/-- `STATIC_FILTER`, an entry of the driver's table. -/
structure StaticFilterEntry where
  adapter : UInt64 := 0
  /-- `PACKET_FLAG_ON_SEND` in `m_dwDirectionFlags`. -/
  onSend : Bool := false
  /-- `PACKET_FLAG_ON_RECEIVE` there. -/
  onReceive : Bool := false
  filterAction : Option FilterAction := none
  dataLinkLayerValid : Bool := false
  networkLayerValid : Bool := false
  transportLayerValid : Bool := false
  /-- The union selector of the data link filter is `ETH_802_3`. -/
  isEth8023 : Bool := false
  eth8023Filter : Eth8023Filter := {}
  /-- The union selector of the network filter. -/
  networkSelector : Option IpFamily := none
  networkFilter : (T : IpFamily) × IpFilter T := ⟨.v4, {}⟩
  /-- The union selector of the transport filter is `TCPUDP`. -/
  isTcpUdp : Bool := false
  tcpUdp : TcpUdpFilter := {}
  deriving DecidableEq

namespace Filter

variable {T : IpFamily}

/-- The data link filter of an entry. -/
def eth8023Filter (f : Filter T) : Eth8023Filter where
  srcAddressValid := f.sourceHwAddress.isSome
  destAddressValid := f.destHwAddress.isSome
  protocolValid := f.etherType.isSome
  srcAddress := f.sourceHwAddress.getD (Vector.replicate 6 0)
  destAddress := f.destHwAddress.getD (Vector.replicate 6 0)
  protocol := f.etherType.getD 0

/-- The address of a network filter, for a subnet if there is one. -/
def addressField (subnet : Option (Subnet T)) : AddressField T :=
  match subnet with
  | some n => ⟨true, n.address, n.mask⟩
  | none => {}

/-- The network filter of an entry. -/
def ipFilter (f : Filter T) : IpFilter T where
  srcAddressValid := f.sourceAddress.isSome
  destAddressValid := f.destAddress.isSome
  protocolValid := f.protocol.isSome
  srcAddress := addressField f.sourceAddress
  destAddress := addressField f.destAddress
  protocol := f.protocol.getD 0

/-- The transport filter of an entry. -/
def tcpUdpFilter (f : Filter T) : TcpUdpFilter where
  srcPortValid := f.sourcePort.isSome
  destPortValid := f.destPort.isSome
  sourcePort := f.sourcePort.getD (0, 0)
  destPort := f.destPort.getD (0, 0)

/-- `to_static_filter`, on an entry that is zero. -/
def toStaticFilter (f : Filter T) : StaticFilterEntry :=
  let dataLink := f.sourceHwAddress.isSome || f.destHwAddress.isSome || f.etherType.isSome
  let network := f.sourceAddress.isSome || f.destAddress.isSome || f.protocol.isSome
  let transport := f.sourcePort.isSome || f.destPort.isSome
  { adapter := f.adapterHandle
    onSend := f.direction != .incoming
    onReceive := f.direction != .outgoing
    filterAction := some f.action
    dataLinkLayerValid := dataLink
    isEth8023 := dataLink
    eth8023Filter := if dataLink then f.eth8023Filter else {}
    networkLayerValid := network
    networkSelector := if network then some T else none
    networkFilter := if network then ⟨T, f.ipFilter⟩ else ⟨.v4, {}⟩
    transportLayerValid := transport
    isTcpUdp := transport && (f.protocol == some ipprotoTcp || f.protocol == some ipprotoUdp)
    tcpUdp := if transport then f.tcpUdpFilter else {} }

end Filter

/-- The entry of an element of `filters_`. -/
def FilterVariant.toStaticFilter (f : FilterVariant) : StaticFilterEntry := f.2.toStaticFilter

/-! ## `static_filters` -/

/-- `static_filters`, with the driver's table. -/
structure StaticFilters where
  filters : List FilterVariant := []
  table : List StaticFilterEntry := []

namespace StaticFilters

/-- The number of values of a `uint32_t`. -/
def uint32Size : Nat := 4294967296

variable {T : IpFamily}

/-- `add_filter_front`; the driver adds the entry, or fails. -/
def addFilterFront (driver : Bool) (f : FilterVariant) (s : StaticFilters) :
    Bool × StaticFilters :=
  if driver then
    (true, { filters := f :: s.filters, table := f.toStaticFilter :: s.table })
  else (false, s)

/-- `add_filter_back`. -/
def addFilterBack (driver : Bool) (f : FilterVariant) (s : StaticFilters) :
    Bool × StaticFilters :=
  if driver then
    (true, { filters := s.filters ++ [f], table := s.table ++ [f.toStaticFilter] })
  else (false, s)

/-- `insert_filter`. -/
def insertFilter (driver : Bool) (f : FilterVariant) (position : UInt32) (s : StaticFilters) :
    Bool × StaticFilters :=
  if position.toNat > s.filters.length then (false, s)
  else if driver then
    (true, {
      filters := s.filters.insertIdx position.toNat f
      table := s.table.insertIdx position.toNat f.toStaticFilter })
  else (false, s)

/-- `remove_filter`. -/
def removeFilter (driver : Bool) (position : UInt32) (s : StaticFilters) : Bool × StaticFilters :=
  if position.toNat ≥ s.filters.length then (false, s)
  else if driver then
    (true, {
      filters := s.filters.eraseIdx position.toNat
      table := s.table.eraseIdx position.toNat })
  else (false, s)

/-- The loop of `remove_filters_if` from the iterator on, when the driver was called `calls` times
before: what is left there, and the table. -/
def removeFrom (predicate : Filter T → Bool) (driver : Nat → Bool) :
    List FilterVariant → Nat → Nat → List StaticFilterEntry →
      List FilterVariant × List StaticFilterEntry
  | [], _, _, table => ([], table)
  | f :: rest, position, calls, table =>
    if f.satisfies predicate then
      if driver calls then
        removeFrom predicate driver rest position (calls + 1)
          (table.eraseIdx (position % uint32Size))
      else
        let (left, table) := removeFrom predicate driver rest (position + 1) (calls + 1) table
        (f :: left, table)
    else
      let (left, table) := removeFrom predicate driver rest (position + 1) calls table
      (f :: left, table)

/-- `remove_filters_if`. -/
def removeFiltersIf (predicate : Filter T → Bool) (driver : Nat → Bool) (s : StaticFilters) :
    StaticFilters :=
  let (filters, table) := removeFrom predicate driver s.filters 0 0 s.table
  { filters, table }

/-- `reset`. -/
def reset (driver : Bool) (s : StaticFilters) : Bool × StaticFilters :=
  (driver, { filters := [], table := if driver then [] else s.table })

/-- An operation, with what the calls of the driver return. -/
inductive Event where
  | addFilterFront (driver : Bool) (f : FilterVariant)
  | addFilterBack (driver : Bool) (f : FilterVariant)
  | insertFilter (driver : Bool) (f : FilterVariant) (position : UInt32)
  | removeFilter (driver : Bool) (position : UInt32)
  | removeFiltersIf (T : IpFamily) (predicate : Filter T → Bool) (driver : Nat → Bool)
  | reset (driver : Bool)

/-- The filters after an operation. -/
def after (s : StaticFilters) : Event → StaticFilters
  | .addFilterFront driver f => (s.addFilterFront driver f).2
  | .addFilterBack driver f => (s.addFilterBack driver f).2
  | .insertFilter driver f position => (s.insertFilter driver f position).2
  | .removeFilter driver position => (s.removeFilter driver position).2
  | .removeFiltersIf _ predicate driver => s.removeFiltersIf predicate driver
  | .reset driver => (s.reset driver).2

/-- The sequences of operations. -/
def system : System StaticFilters Event where
  init s := s = {}
  step s e t := t = s.after e

/-- The table has the entries of `filters_`, in order. -/
def Mirrored (s : StaticFilters) : Prop :=
  s.table = s.filters.map FilterVariant.toStaticFilter

/-- A `reset` of filters is done by the driver, and a position of `remove_filters_if` is a
`uint32_t`. -/
def KeepsStep (s : StaticFilters) : Event → Prop
  | .reset driver => driver = true ∨ s.filters = []
  | .removeFiltersIf .. => s.filters.length ≤ uint32Size
  | _ => True

/-! ## The operations keep the table in step -/

variable {s : StaticFilters} {driver : Bool} {f : FilterVariant} {position : UInt32}

theorem Mirrored.addFilterFront (h : s.Mirrored) : (s.addFilterFront driver f).2.Mirrored := by
  unfold StaticFilters.addFilterFront
  split
  · exact congrArg (f.toStaticFilter :: ·) h
  · exact h

theorem Mirrored.addFilterBack (h : s.Mirrored) : (s.addFilterBack driver f).2.Mirrored := by
  unfold StaticFilters.addFilterBack
  split
  · show s.table ++ [f.toStaticFilter] = (s.filters ++ [f]).map FilterVariant.toStaticFilter
    rw [List.map_append, h]
    rfl
  · exact h

theorem Mirrored.insertFilter (h : s.Mirrored) :
    (s.insertFilter driver f position).2.Mirrored := by
  unfold StaticFilters.insertFilter
  split
  · exact h
  · split
    · show s.table.insertIdx _ _ = (s.filters.insertIdx _ f).map FilterVariant.toStaticFilter
      rw [h, List.map_insertIdx]
    · exact h

theorem Mirrored.removeFilter (h : s.Mirrored) : (s.removeFilter driver position).2.Mirrored := by
  unfold StaticFilters.removeFilter
  split
  · exact h
  · split
    · show s.table.eraseIdx _ = (s.filters.eraseIdx _).map FilterVariant.toStaticFilter
      rw [h, List.eraseIdx_map]
    · exact h

/-- The driver's entry at the place of the loop is that of the filter there. -/
theorem eraseIdx_mirrored {kept rest : List FilterVariant} (hlength : kept.length < uint32Size) :
    ((kept ++ f :: rest).map FilterVariant.toStaticFilter).eraseIdx (kept.length % uint32Size) =
      (kept ++ rest).map FilterVariant.toStaticFilter := by
  rw [Nat.mod_eq_of_lt hlength, List.eraseIdx_map,
    List.eraseIdx_append_of_length_le (Nat.le_refl _), Nat.sub_self]
  rfl

/-- The table stays in step with what the loop kept and what is ahead of it. -/
theorem removeFrom_mirrored (predicate : Filter T → Bool) (driver : Nat → Bool)
    (rest kept : List FilterVariant) (calls : Nat) {table : List StaticFilterEntry}
    (htable : table = (kept ++ rest).map FilterVariant.toStaticFilter)
    (hlength : kept.length + rest.length ≤ uint32Size) :
    (removeFrom predicate driver rest kept.length calls table).2 =
      (kept ++ (removeFrom predicate driver rest kept.length calls table).1).map
        FilterVariant.toStaticFilter := by
  induction rest generalizing kept calls table with
  | nil => exact htable
  | cons f rest ih =>
    rw [List.length_cons] at hlength
    -- a filter that is left joins those before the iterator
    have hleft (calls : Nat) :
        (removeFrom predicate driver rest (kept.length + 1) calls table).2 =
          (kept ++ f :: (removeFrom predicate driver rest (kept.length + 1) calls table).1).map
            FilterVariant.toStaticFilter := by
      have hahead : table = ((kept ++ [f]) ++ rest).map FilterVariant.toStaticFilter := by
        rw [htable, List.append_assoc]
        rfl
      have hnext := ih (kept ++ [f]) calls hahead
        (by rw [List.length_append, List.length_singleton]; omega)
      rw [List.length_append, List.length_singleton, List.append_assoc] at hnext
      exact hnext
    unfold removeFrom
    split
    · split
      · rw [htable, eraseIdx_mirrored (by omega)]
        exact ih kept (calls + 1) rfl (by omega)
      · exact hleft (calls + 1)
    · exact hleft calls

theorem Mirrored.removeFiltersIf (h : s.Mirrored) (hlength : s.filters.length ≤ uint32Size)
    (predicate : Filter T → Bool) (driver : Nat → Bool) :
    (s.removeFiltersIf predicate driver).Mirrored :=
  removeFrom_mirrored predicate driver s.filters [] 0 h (by simpa using hlength)

/-! ### What `remove_filters_if` leaves -/

/-- How often the driver was asked when the loop comes to the filter at `i`. -/
def callsBefore (predicate : Filter T → Bool) (filters : List FilterVariant) (i : Nat) : Nat :=
  (filters.take i).countP fun f => f.satisfies predicate

/-- The filters that are not of the family, do not satisfy the predicate or are not removed by the
driver, in order. -/
def remaining (predicate : Filter T → Bool) (driver : Nat → Bool) (filters : List FilterVariant) :
    List FilterVariant :=
  (filters.zipIdx.filter fun x =>
    !(x.1.satisfies predicate && driver (callsBefore predicate filters x.2))).map Prod.fst

/-- `filters_` and the table of the driver are in step; the driver counts the entries of its table
with a `uint32_t`. -/
structure InStep (s : StaticFilters) : Prop where
  mirrored : s.Mirrored
  size : s.table.length < uint32Size

/-- The loop leaves of the filters ahead of it those that remain. -/
theorem removeFrom_remaining (predicate : Filter T → Bool) (driver : Nat → Bool)
    (before rest : List FilterVariant) (position : Nat) (table : List StaticFilterEntry) :
    (removeFrom predicate driver rest position
        (before.countP fun f => f.satisfies predicate) table).1 =
      ((rest.zipIdx before.length).filter fun x => !(x.1.satisfies predicate &&
        driver (callsBefore predicate (before ++ rest) x.2))).map Prod.fst := by
  induction rest generalizing before position table with
  | nil => rfl
  | cons f rest ih =>
    -- the filter at the iterator is behind it afterwards
    have hnext (position : Nat) (table : List StaticFilterEntry) :=
      ih (before ++ [f]) position table
    have hcalls : callsBefore predicate (before ++ f :: rest) before.length =
        before.countP fun f => f.satisfies predicate := by
      rw [callsBefore, List.take_left]
    simp only [List.countP_append, List.countP_singleton, List.length_append,
      List.length_singleton, List.append_assoc, List.singleton_append] at hnext
    unfold removeFrom
    rw [List.zipIdx_cons, List.filter_cons]
    dsimp only
    rw [hcalls]
    split
    · next hsatisfies =>
      simp only [hsatisfies, if_true] at hnext
      split
      · next hdriver =>
        rw [hnext, hsatisfies, hdriver]
        rfl
      · next hdriver =>
        rw [hsatisfies, Bool.eq_false_iff.mpr hdriver]
        exact congrArg (f :: ·) (hnext _ _)
    · next hsatisfies =>
      simp only [Bool.eq_false_iff.mpr hsatisfies, Bool.false_eq_true, if_false,
        Nat.add_zero] at hnext
      rw [Bool.eq_false_iff.mpr hsatisfies]
      exact congrArg (f :: ·) (hnext _ _)

/-- `remove_filters_if` leaves, in order, the filters that remain, and the table of the driver in
step with them. -/
theorem removeFiltersIf_remaining (h : s.InStep) (predicate : Filter T → Bool)
    (driver : Nat → Bool) :
    (s.removeFiltersIf predicate driver).filters = remaining predicate driver s.filters ∧
      (s.removeFiltersIf predicate driver).InStep := by
  have hlength : s.filters.length < uint32Size := by
    have hsize := h.size
    rwa [h.mirrored, List.length_map] at hsize
  have hfilters : (s.removeFiltersIf predicate driver).filters =
      remaining predicate driver s.filters :=
    removeFrom_remaining predicate driver [] s.filters 0 s.table
  have hmirrored := h.mirrored.removeFiltersIf (Nat.le_of_lt hlength) predicate driver
  refine ⟨hfilters, hmirrored, ?_⟩
  have hle : (remaining predicate driver s.filters).length ≤ s.filters.length := by
    rw [remaining, List.length_map]
    exact (List.length_filter_le _ _).trans (Nat.le_of_eq List.length_zipIdx)
  rw [hmirrored, List.length_map, hfilters]
  exact Nat.lt_of_le_of_lt hle hlength

/-- Filters of both families, one with a protocol. -/
def mixedFilters : StaticFilters :=
  let filters : List FilterVariant :=
    [⟨.v4, {}⟩, ⟨.v6, {}⟩, ⟨.v6, { protocol := some ipprotoUdp }⟩, ⟨.v6, { action := .drop }⟩]
  { filters, table := filters.map FilterVariant.toStaticFilter }

/-- Two filters satisfy the predicate, and the driver removes the second of them only. -/
theorem removeFiltersIf_remaining_mixed :
    (mixedFilters.removeFiltersIf (fun f : Filter .v6 => f.protocol.isNone)
        fun calls => calls != 0).filters =
      [⟨.v4, {}⟩, ⟨.v6, {}⟩, ⟨.v6, { protocol := some ipprotoUdp }⟩] ∧
      (mixedFilters.removeFiltersIf (fun f : Filter .v6 => f.protocol.isNone)
        fun calls => calls != 0).InStep := by
  obtain ⟨hfilters, hstep⟩ := removeFiltersIf_remaining (s := mixedFilters) ⟨rfl, by decide⟩
    (fun f : Filter .v6 => f.protocol.isNone) fun calls => calls != 0
  exact ⟨hfilters.trans (by decide), hstep⟩

/-- A `reset` that the driver does, or that has nothing to clear. -/
theorem Mirrored.reset_iff (h : s.Mirrored) :
    (s.reset driver).2.Mirrored ↔ driver = true ∨ s.filters = [] := by
  unfold Mirrored reset
  cases driver with
  | true => exact iff_of_true rfl (.inl rfl)
  | false =>
    show s.table = [] ↔ _
    rw [h, List.map_eq_nil_iff]
    simp

/-- Every operation that meets the condition keeps the table in step. -/
theorem Mirrored.step {e : Event} (h : s.Mirrored) (hkeeps : s.KeepsStep e) :
    (s.after e).Mirrored := by
  cases e with
  | addFilterFront => exact h.addFilterFront
  | addFilterBack => exact h.addFilterBack
  | insertFilter => exact h.insertFilter
  | removeFilter => exact h.removeFilter
  | removeFiltersIf T predicate driver => exact h.removeFiltersIf hkeeps predicate driver
  | reset => exact h.reset_iff.mpr hkeeps

/-- In a run whose operations meet the condition the table is that of the filters, and a `reset`
keeps it so just when it meets the condition. -/
theorem table_in_step (h : (system.restrict KeepsStep).Reachable s) :
    s.Mirrored ∧ ∀ driver, (s.after (.reset driver)).Mirrored ↔ s.KeepsStep (.reset driver) := by
  have hmirrored : s.Mirrored := by
    refine h.restrict_invariant (I := Mirrored) ?_ ?_
    · rintro s rfl
      rfl
    · rintro s e t hs hkeeps rfl
      exact hs.step hkeeps
  exact ⟨hmirrored, fun driver => hmirrored.reset_iff⟩

/-! ## A `reset` that fails -/

/-- A filter that drops everything. -/
def dropAll : FilterVariant := ⟨.v6, { action := .drop }⟩

/-- One filter, added by the driver. -/
def oneFilter : StaticFilters := ({} : StaticFilters).after (.addFilterBack true dropAll)

theorem oneFilter_reachable : (system.restrict KeepsStep).Reachable oneFilter :=
  (System.Reachable.init rfl).restrict_snoc (M := system) rfl trivial

theorem table_in_step_one : oneFilter.Mirrored ∧
    ∀ driver, (oneFilter.after (.reset driver)).Mirrored ↔ oneFilter.KeepsStep (.reset driver) :=
  table_in_step oneFilter_reachable

/-- The driver fails to reset a table of one filter. -/
theorem reset_leaves_table : ¬ ∀ s : StaticFilters, system.Reachable s → s.Mirrored := by
  intro hclaim
  have hmirrored : (oneFilter.reset false).2.Mirrored :=
    hclaim _ (oneFilter_reachable.of_restrict.snoc (M := system) (e := .reset false) rfl)
  have hone : oneFilter.Mirrored := rfl
  rcases hone.reset_iff.mp hmirrored with hdriver | hempty
  · cases hdriver
  · cases hempty

end StaticFilters

end CutieProxy
