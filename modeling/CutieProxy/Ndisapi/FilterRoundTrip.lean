import CutieProxy.Ndisapi.StaticFilters

/-!
# Reading a static filter back

`from_static_filter` reads a filter from an entry of the driver's table, as `load_table` does. It is
not the inverse of `to_static_filter`: an IPv4 address is written as it is in memory and read with
`ntohl`; ports are written for every protocol, but read only with the union selector that TCP and
UDP set; and the protocol is read where the IPv4 filter has it, which in an IPv6 filter is a byte of
the mask of the source address (`readProtocol_v6`). `roundTrip_iff` says which filters are read back.

The network filters share the memory of a union. It is laid out from the structures' fields in
order; the size of `m_AddressType`, and what it is for a subnet, are not part of the source
(`UnionLayout`).
-/

namespace CutieProxy

/-- What the structures of the driver decide about the memory of a network filter: the size of
`m_AddressType` (a machine word) and `IP_SUBNET_V4_TYPE` and `IP_SUBNET_V6_TYPE`. -/
structure UnionLayout where
  addressTypeSize : Nat
  addressTypeSize_lt : addressTypeSize < 16
  subnetType : IpFamily → Vector UInt8 addressTypeSize

/-- The memory of an address. -/
def IpFamily.toBytes : (T : IpFamily) → T.Address → List UInt8
  | .v4, a => a.toBytes
  | .v6, a => a.toList

/-- The number of bytes of an address. -/
def IpFamily.addressSize : IpFamily → Nat
  | .v4 => 4
  | .v6 => 16

/-- The memory of an address of a network filter: the type, then the address and the mask. -/
def AddressField.memory {T : IpFamily} (layout : UnionLayout) (x : AddressField T) : List UInt8 :=
  (if x.isSubnet then (layout.subnetType T).toList
    else List.replicate layout.addressTypeSize 0) ++ T.toBytes x.ip ++ T.toBytes x.ipMask

/-- The memory of a network filter, after its `m_ValidFields`. -/
def IpFilter.memory {T : IpFamily} (layout : UnionLayout) (n : IpFilter T) : List UInt8 :=
  n.srcAddress.memory layout ++ n.destAddress.memory layout ++ [n.protocol]

namespace StaticFilterEntry

/-- `m_IPv4.m_Protocol` of the union, whichever filter it holds: it follows two addresses of
IPv4. -/
def readProtocol (layout : UnionLayout) (e : StaticFilterEntry) : UInt8 :=
  (e.networkFilter.2.memory layout).getD
    (2 * (layout.addressTypeSize + IpFamily.v4.addressSize + IpFamily.v4.addressSize)) 0

/-- The member of the union for the addresses of a family. -/
def member (e : StaticFilterEntry) (T : IpFamily) : Option (IpFilter T) :=
  if h : e.networkFilter.1 = T then some (h ▸ e.networkFilter.2) else none

end StaticFilterEntry

/-- `ntohl` on the memory of an address. -/
def IpAddressV4.ntohl (a : IpAddressV4) : IpAddressV4 := ⟨a.sB4, a.sB3, a.sB2, a.sB1⟩

/-- An address as `from_static_filter` takes it from a network filter. -/
def IpFamily.read : (T : IpFamily) → T.Address → T.Address
  | .v4, a => a.ntohl
  | .v6, a => a

namespace Filter

variable {T : IpFamily}

/-- `set_source_address` and `set_dest_address` of `from_static_filter`: of a field that is valid,
the subnet read from it. -/
def readSubnet (valid : Bool) (x : AddressField T) (default : Option (Subnet T)) :
    Option (Subnet T) :=
  if valid then some ⟨T.read x.ip, T.read x.ipMask⟩ else default

/-- The data link layer of `from_static_filter`. -/
def readDataLink (e : StaticFilterEntry) (f : Filter T) : Filter T :=
  let x := e.eth8023Filter
  if e.dataLinkLayerValid && e.isEth8023 then
    { f with
      sourceHwAddress := if x.srcAddressValid then some x.srcAddress else f.sourceHwAddress
      destHwAddress := if x.destAddressValid then some x.destAddress else f.destHwAddress
      etherType := if x.protocolValid then some x.protocol else f.etherType }
  else f

/-- The network layer. The flags of the valid fields are the same in both families. -/
def readNetwork (layout : UnionLayout) (e : StaticFilterEntry) (f : Filter T) : Filter T :=
  if e.networkLayerValid then
    let f := match e.networkSelector == some T, e.member T with
      | true, some n =>
        { f with
          sourceAddress := readSubnet n.srcAddressValid n.srcAddress f.sourceAddress
          destAddress := readSubnet n.destAddressValid n.destAddress f.destAddress }
      | _, _ => f
    if e.networkSelector.isSome && e.networkFilter.2.protocolValid then
      { f with protocol := some (e.readProtocol layout) }
    else f
  else f

/-- The transport layer. -/
def readTransport (e : StaticFilterEntry) (f : Filter T) : Filter T :=
  if e.transportLayerValid && e.isTcpUdp then
    { f with
      sourcePort := if e.tcpUdp.srcPortValid then some e.tcpUdp.sourcePort else f.sourcePort
      destPort := if e.tcpUdp.destPortValid then some e.tcpUdp.destPort else f.destPort }
  else f

/-- The direction of the flags. -/
def readDirection (onSend onReceive : Bool) (default : Direction) : Direction :=
  if onReceive then if onSend then .both else .incoming
  else if onSend then .outgoing
  else default

/-- `from_static_filter`, which populates the filter it is given. -/
def fromStaticFilter (layout : UnionLayout) (e : StaticFilterEntry) (f : Filter T) : Filter T :=
  let f := { f with
    adapterHandle := e.adapter
    direction := readDirection e.onSend e.onReceive f.direction
    action := e.filterAction.getD f.action }
  readTransport e (readNetwork layout e (readDataLink e f))

/-! ## What is read of each layer -/

variable {layout : UnionLayout} {f g : Filter T}

theorem readDirection_toStaticFilter (f : Filter T) (default : Direction) :
    readDirection f.toStaticFilter.onSend f.toStaticFilter.onReceive default = f.direction := by
  unfold readDirection toStaticFilter
  cases f.direction <;> rfl

theorem readDataLink_toStaticFilter (f g : Filter T) :
    readDataLink f.toStaticFilter g =
      { g with
        sourceHwAddress := f.sourceHwAddress.or g.sourceHwAddress
        destHwAddress := f.destHwAddress.or g.destHwAddress
        etherType := f.etherType.or g.etherType } := by
  unfold readDataLink toStaticFilter eth8023Filter
  cases f.sourceHwAddress <;> cases f.destHwAddress <;> cases f.etherType <;> rfl

/-- The ports are lost with the union selector. -/
theorem readTransport_toStaticFilter (f g : Filter T) :
    readTransport f.toStaticFilter g =
      if f.protocol = some ipprotoTcp ∨ f.protocol = some ipprotoUdp then
        { g with
          sourcePort := f.sourcePort.or g.sourcePort
          destPort := f.destPort.or g.destPort }
      else g := by
  have hselector : (f.protocol == some ipprotoTcp || f.protocol == some ipprotoUdp) =
      decide (f.protocol = some ipprotoTcp ∨ f.protocol = some ipprotoUdp) := by
    simp only [Bool.decide_or, beq_eq_decide]
  by_cases hprotocol : f.protocol = some ipprotoTcp ∨ f.protocol = some ipprotoUdp
  · rw [if_pos hprotocol]
    unfold readTransport toStaticFilter tcpUdpFilter
    simp only [hselector, decide_eq_true hprotocol]
    cases f.sourcePort <;> cases f.destPort <;> rfl
  · rw [if_neg hprotocol]
    unfold readTransport toStaticFilter tcpUdpFilter
    simp only [hselector, decide_eq_false hprotocol, Bool.and_false]
    rfl

/-- A subnet as it is read back. -/
def backSubnet (n : Subnet T) : Subnet T := ⟨T.read n.address, T.read n.mask⟩

theorem readNetwork_toStaticFilter (layout : UnionLayout) (f g : Filter T) :
    readNetwork layout f.toStaticFilter g =
      { g with
        sourceAddress := (f.sourceAddress.map backSubnet).or g.sourceAddress
        destAddress := (f.destAddress.map backSubnet).or g.destAddress
        protocol := (f.protocol.map fun _ => f.toStaticFilter.readProtocol layout).or
          g.protocol } := by
  unfold readNetwork toStaticFilter ipFilter
  cases f.sourceAddress <;> cases f.destAddress <;> cases f.protocol <;>
    simp [readSubnet, addressField, backSubnet, StaticFilterEntry.member]

/-- The address type of a field, for a subnet or not, has its size. -/
theorem length_addressType (layout : UnionLayout) (x : AddressField T) :
    (if x.isSubnet then (layout.subnetType T).toList
      else List.replicate layout.addressTypeSize 0).length = layout.addressTypeSize := by
  split
  · exact Vector.length_toList
  · exact List.length_replicate

/-- In an IPv4 filter the protocol is read where it is. -/
theorem readProtocol_v4 (layout : UnionLayout) {e : StaticFilterEntry} {n : IpFilter .v4}
    (he : e.networkFilter = ⟨.v4, n⟩) : e.readProtocol layout = n.protocol := by
  have hsize (x : AddressField .v4) :
      (x.memory layout).length = layout.addressTypeSize + 4 + 4 := by
    simp only [AddressField.memory, List.length_append, length_addressType]
    rfl
  have hindex : 2 * (layout.addressTypeSize + IpFamily.v4.addressSize + IpFamily.v4.addressSize) =
      (n.srcAddress.memory layout ++ n.destAddress.memory layout).length := by
    rw [List.length_append, hsize, hsize]
    exact Nat.two_mul _
  rw [StaticFilterEntry.readProtocol, he, hindex, IpFilter.memory, List.getD_eq_getElem?_getD,
    List.getElem?_concat_length]
  rfl

/-- In an IPv6 filter the protocol is read from the mask of the source address. -/
theorem readProtocol_v6 (layout : UnionLayout) {e : StaticFilterEntry} {n : IpFilter .v6}
    (he : e.networkFilter = ⟨.v6, n⟩) :
    e.readProtocol layout =
      n.srcAddress.ipMask.get ⟨layout.addressTypeSize, layout.addressTypeSize_lt⟩ := by
  have hlt := layout.addressTypeSize_lt
  have hip (a : IpAddressV6) : (IpFamily.v6.toBytes a).length = 16 := Vector.length_toList
  have hindex : 2 * (layout.addressTypeSize + IpFamily.v4.addressSize + IpFamily.v4.addressSize) =
      layout.addressTypeSize + 16 + layout.addressTypeSize := by
    simp only [IpFamily.addressSize]
    omega
  rw [StaticFilterEntry.readProtocol, he, hindex, IpFilter.memory, AddressField.memory,
    List.getD_eq_getElem?_getD, List.append_assoc _ (n.destAddress.memory layout),
    List.append_assoc _ (IpFamily.v6.toBytes n.srcAddress.ipMask), List.getElem?_append_right,
    List.getElem?_append_left]
  · simp only [List.length_append, length_addressType, hip, Nat.add_sub_cancel_left]
    show (n.srcAddress.ipMask.toList[layout.addressTypeSize]?).getD 0 = _
    rw [List.getElem?_eq_getElem (by rw [Vector.length_toList]; exact hlt)]
    exact Vector.getElem_toList _
  · simp only [List.length_append, length_addressType, hip]
    omega
  · simp only [List.length_append, length_addressType, hip]
    omega

/-! ## The filters that are read back -/

/-- The byte of an IPv6 filter that is taken for the protocol: of the mask of its source address. -/
def maskByte (layout : UnionLayout) (f : Filter .v6) : UInt8 :=
  match f.sourceAddress with
  | some n => n.mask.get ⟨layout.addressTypeSize, layout.addressTypeSize_lt⟩
  | none => 0

/-- The protocol as it is read back from the entry of a filter that has one. -/
def backProtocol (layout : UnionLayout) : {T : IpFamily} → Filter T → UInt8 → UInt8
  | .v4, _, p => p
  | .v6, f, _ => f.maskByte layout

theorem readProtocol_toStaticFilter (layout : UnionLayout) {p : UInt8}
    (hp : f.protocol = some p) :
    f.toStaticFilter.readProtocol layout = backProtocol layout f p := by
  have hnetwork : f.toStaticFilter.networkFilter = ⟨T, f.ipFilter⟩ := by
    simp [toStaticFilter, hp]
  cases T with
  | v4 =>
    rw [readProtocol_v4 layout hnetwork, ipFilter, hp]
    rfl
  | v6 =>
    rw [readProtocol_v6 layout hnetwork, ipFilter, backProtocol, maskByte]
    cases f.sourceAddress with
    | some n => rfl
    | none =>
      exact Vector.getElem_replicate layout.addressTypeSize_lt

/-- What `from_static_filter` makes of the entry of a filter. -/
theorem fromStaticFilter_toStaticFilter (layout : UnionLayout) (f : Filter T) :
    fromStaticFilter layout f.toStaticFilter {} =
      { f with
        sourceAddress := f.sourceAddress.map backSubnet
        destAddress := f.destAddress.map backSubnet
        protocol := f.protocol.map (backProtocol layout f)
        sourcePort :=
          if f.protocol = some ipprotoTcp ∨ f.protocol = some ipprotoUdp then f.sourcePort
          else none
        destPort :=
          if f.protocol = some ipprotoTcp ∨ f.protocol = some ipprotoUdp then f.destPort
          else none } := by
  have hprotocol : (f.protocol.map fun _ => f.toStaticFilter.readProtocol layout) =
      f.protocol.map (backProtocol layout f) :=
    Option.map_congr fun p hp => readProtocol_toStaticFilter layout hp
  rw [fromStaticFilter, readDataLink_toStaticFilter, readNetwork_toStaticFilter,
    readTransport_toStaticFilter, readDirection_toStaticFilter, hprotocol]
  simp only [Option.or_none]
  split <;> rfl

/-- An address that is read as it was written: the bytes of an IPv4 address are the same from both
ends. -/
def KeptAddress : (T : IpFamily) → T.Address → Prop
  | .v4, a => a.sB1 = a.sB4 ∧ a.sB2 = a.sB3
  | .v6, _ => True

/-- A protocol that is read as it was written: that of an IPv6 filter is the byte of the mask. -/
def KeptProtocol (layout : UnionLayout) : {T : IpFamily} → Filter T → UInt8 → Prop
  | .v4, _, _ => True
  | .v6, f, p => p = f.maskByte layout

/-- The filters that are read back from their entries. -/
structure ReadBack (layout : UnionLayout) (f : Filter T) : Prop where
  sourceAddress : ∀ n, f.sourceAddress = some n → KeptAddress T n.address ∧ KeptAddress T n.mask
  destAddress : ∀ n, f.destAddress = some n → KeptAddress T n.address ∧ KeptAddress T n.mask
  protocol : ∀ p, f.protocol = some p → KeptProtocol layout f p
  ports : (f.sourcePort = none ∧ f.destPort = none) ∨ f.protocol = some ipprotoTcp ∨
    f.protocol = some ipprotoUdp

theorem read_eq_iff (T : IpFamily) (a : T.Address) : T.read a = a ↔ KeptAddress T a := by
  cases T with
  | v4 =>
    rcases a with ⟨b₁, b₂, b₃, b₄⟩
    simp only [IpFamily.read, IpAddressV4.ntohl, KeptAddress, IpAddressV4.mk.injEq]
    constructor
    · rintro ⟨h₁, h₂, -, -⟩
      exact ⟨h₁.symm, h₂.symm⟩
    · rintro ⟨h₁, h₂⟩
      exact ⟨h₁.symm, h₂.symm, h₂, h₁⟩
  | v6 => exact iff_of_true rfl trivial

theorem map_backSubnet_eq_iff (subnet : Option (Subnet T)) : subnet.map backSubnet = subnet ↔
    ∀ n, subnet = some n → KeptAddress T n.address ∧ KeptAddress T n.mask := by
  cases subnet with
  | none => exact iff_of_true rfl nofun
  | some n =>
    rcases n with ⟨address, mask⟩
    simp only [Option.map_some, Option.some.injEq, backSubnet, Subnet.mk.injEq, read_eq_iff,
      forall_eq']

theorem backProtocol_eq_iff (p : UInt8) : backProtocol layout f p = p ↔ KeptProtocol layout f p := by
  cases T with
  | v4 => exact iff_of_true rfl trivial
  | v6 => exact eq_comm

theorem map_backProtocol_eq_iff : f.protocol.map (backProtocol layout f) = f.protocol ↔
    ∀ p, f.protocol = some p → KeptProtocol layout f p := by
  cases hprotocol : f.protocol with
  | none => exact iff_of_true rfl nofun
  | some p => simp only [Option.map_some, Option.some.injEq, backProtocol_eq_iff, forall_eq']

/-- Filters that differ at most in what is not read back are equal when that is. -/
theorem with_eq_self_iff (f : Filter T) (source dest : Option (Subnet T))
    (sourcePort destPort : Option (UInt16 × UInt16)) (protocol : Option UInt8) :
    { f with
      sourceAddress := source
      destAddress := dest
      sourcePort := sourcePort
      destPort := destPort
      protocol := protocol } = f ↔
    source = f.sourceAddress ∧ dest = f.destAddress ∧ protocol = f.protocol ∧
      sourcePort = f.sourcePort ∧ destPort = f.destPort := by
  cases f
  simp only [Filter.mk.injEq, true_and, and_true]
  constructor
  · rintro ⟨hs, hd, hsp, hdp, hp⟩
    exact ⟨hs, hd, hp, hsp, hdp⟩
  · rintro ⟨hs, hd, hp, hsp, hdp⟩
    exact ⟨hs, hd, hsp, hdp, hp⟩

/-- A filter is read back from its entry exactly when its IPv4 addresses and masks read the same
from both ends, the protocol of an IPv6 filter is the byte of the mask that is taken for it, and
it has ports only for TCP and UDP. -/
theorem roundTrip_iff (layout : UnionLayout) (f : Filter T) :
    fromStaticFilter layout f.toStaticFilter {} = f ↔ ReadBack layout f := by
  rw [fromStaticFilter_toStaticFilter, with_eq_self_iff, map_backSubnet_eq_iff,
    map_backSubnet_eq_iff, map_backProtocol_eq_iff]
  have hports : ((if f.protocol = some ipprotoTcp ∨ f.protocol = some ipprotoUdp then f.sourcePort
        else none) = f.sourcePort ∧
      (if f.protocol = some ipprotoTcp ∨ f.protocol = some ipprotoUdp then f.destPort
        else none) = f.destPort) ↔
      (f.sourcePort = none ∧ f.destPort = none) ∨ f.protocol = some ipprotoTcp ∨
        f.protocol = some ipprotoUdp := by
    split
    · next hprotocol => exact iff_of_true ⟨rfl, rfl⟩ (Or.inr hprotocol)
    · next hprotocol =>
      rw [or_iff_left hprotocol]
      exact and_congr eq_comm eq_comm
  rw [hports]
  constructor
  · rintro ⟨hsource, hdest, hprotocol, hports⟩
    exact ⟨hsource, hdest, hprotocol, hports⟩
  · rintro ⟨hsource, hdest, hprotocol, hports⟩
    exact ⟨hsource, hdest, hprotocol, hports⟩

/-- The driver's structures: `m_AddressType` is a double word, and a subnet is its value `1`. -/
def doubleWord : UnionLayout := ⟨4, by decide, fun _ => #v[1, 0, 0, 0]⟩

/-- The network 10.0.0.0/8 as a source is read back as 0.0.0.10, with the mask 0.0.0.255. -/
def fromTen : Filter .v4 := { sourceAddress := some ⟨⟨10, 0, 0, 0⟩, ⟨255, 0, 0, 0⟩⟩ }

theorem address_reversed :
    ¬ ∀ (layout : UnionLayout) (T : IpFamily) (f : Filter T),
      fromStaticFilter layout f.toStaticFilter {} = f := by
  intro hclaim
  have hread := hclaim doubleWord .v4 fromTen
  rw [fromStaticFilter_toStaticFilter] at hread
  exact absurd (congrArg Filter.sourceAddress hread) (by decide)

end Filter

end CutieProxy
