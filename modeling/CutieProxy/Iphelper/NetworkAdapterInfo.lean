import CutieProxy.Net.Inet
import Mathlib.Data.List.Perm.Subperm
import Mathlib.Data.List.Nodup
import Mathlib.Data.Set.Basic

/-!
# The addresses of a network adapter

`is_same_address_info` compares the number of the addresses of two adapters and looks up each
address of one in the other. Where no address is listed twice this decides whether the adapters have
the same addresses (`isSameAddressInfo_iff`), in any order.

An address is an `IpAddressInfo`, which has what `operator==` compares; `SockaddrStorage` is the
memory it is read from, and the functions on that memory come to the same as those on the addresses
(`isSameAddressInfo_eq`).
-/

namespace CutieProxy

/-! ## Addresses -/

/-- `ip_address_info`, of one of the two families it compares. -/
inductive IpAddressInfo where
  | inet (address : IpAddressV4)
  | inet6 (address : List UInt8)
  deriving DecidableEq

/-- `network_adapter_info`. -/
structure NetworkAdapterInfo where
  luid : Nat
  ifType : Nat
  adapterName : String
  unicastAddressList : List IpAddressInfo

namespace NetworkAdapterInfo

/-- `has_address`. -/
def hasAddress (a : NetworkAdapterInfo) (address : IpAddressInfo) : Bool :=
  a.unicastAddressList.contains address

/-- `is_same_address_info<false>`. -/
def isSameAddressInfo (a rhs : NetworkAdapterInfo) : Bool :=
  a.unicastAddressList.length == rhs.unicastAddressList.length &&
    rhs.unicastAddressList.all a.hasAddress

end NetworkAdapterInfo

/-! ## Their memory -/

/-- `AF_INET`. -/
def afInet : UInt16 := 2

/-- `AF_INET6`. -/
def afInet6 : UInt16 := 23

/-- `SOCKADDR_STORAGE`, which `ip_address_info` is: the family and the memory behind it. -/
structure SockaddrStorage where
  ssFamily : UInt16
  data : Image 126

namespace SockaddrStorage

/-- `sockaddr_in::sin_addr`, behind the port. -/
def sinAddr (a : SockaddrStorage) : IpAddressV4 := ⟨a.data 2, a.data 3, a.data 4, a.data 5⟩

/-- `sockaddr_in6::sin6_addr`, behind the port and the flow label. -/
def sin6Addr (a : SockaddrStorage) : List UInt8 :=
  List.ofFn fun i : Fin 16 => a.data ⟨6 + i.val, by have := i.isLt; omega⟩

/-- `ip_address_info::operator==`. -/
def equals (a rhs : SockaddrStorage) : Bool :=
  if a.ssFamily ≠ rhs.ssFamily then false
  else if a.ssFamily = afInet then a.sinAddr == rhs.sinAddr
  else if a.ssFamily = afInet6 then a.sin6Addr == rhs.sin6Addr
  else false

/-- The address, of one of the two families. -/
def info (a : SockaddrStorage) : Option IpAddressInfo :=
  if a.ssFamily = afInet then some (.inet a.sinAddr)
  else if a.ssFamily = afInet6 then some (.inet6 a.sin6Addr)
  else none

end SockaddrStorage

/-- The lists of addresses of a `network_adapter_info`. -/
structure AdapterAddresses where
  unicastAddressList : List SockaddrStorage
  gatewayAddressList : List SockaddrStorage

namespace AdapterAddresses

/-- `std::find` finds the address in a list. -/
def found (list : List SockaddrStorage) (address : SockaddrStorage) : Bool :=
  list.any fun a => a.equals address

/-- `is_same_address_info`, whose template parameter is `checkGateway`. -/
def isSameAddressInfo (checkGateway : Bool) (a rhs : AdapterAddresses) : Bool :=
  if a.unicastAddressList.length ≠ rhs.unicastAddressList.length then false
  else if checkGateway = true ∧ a.gatewayAddressList.length ≠ rhs.gatewayAddressList.length then
    false
  else if !rhs.unicastAddressList.all (found a.unicastAddressList) then false
  else if checkGateway then rhs.gatewayAddressList.all (found a.gatewayAddressList)
  else true

/-- `get_unicast_address_difference`. -/
def getUnicastAddressDifference (a rhs : AdapterAddresses) : List SockaddrStorage :=
  a.unicastAddressList.filter fun address => !found rhs.unicastAddressList address

end AdapterAddresses

/-- The addresses as `GetAdaptersAddresses` reports them: the unicast addresses are of the two
families, and none is listed twice. -/
structure ReportedAddresses extends AdapterAddresses where
  known : ∀ a ∈ unicastAddressList, a.info.isSome
  distinct : (unicastAddressList.filterMap SockaddrStorage.info).Nodup

namespace ReportedAddresses

/-- The unicast addresses, in order. -/
def infos (a : ReportedAddresses) : List IpAddressInfo :=
  a.unicastAddressList.filterMap SockaddrStorage.info

/-- The set of unicast addresses. -/
def addresses (a : ReportedAddresses) : Set IpAddressInfo := {x | x ∈ a.infos}

end ReportedAddresses

/-! ## Comparing them -/

namespace SockaddrStorage

variable {a b : SockaddrStorage}

theorem info_inet {v : IpAddressV4} :
    a.info = some (.inet v) ↔ a.ssFamily = afInet ∧ a.sinAddr = v := by
  unfold info
  split
  · next h => simp [h]
  · next h => split <;> simp [h]

theorem info_inet6 {v : List UInt8} :
    a.info = some (.inet6 v) ↔ a.ssFamily = afInet6 ∧ a.sin6Addr = v := by
  unfold info
  split
  · next h => simp [h, show afInet ≠ afInet6 by decide]
  · split
    · next h => simp [h]
    · next h => simp [h]

/-- Two addresses in memory are equal just when they are the same address of one of the families. -/
theorem equals_iff : a.equals b = true ↔ ∃ x, a.info = some x ∧ b.info = some x := by
  constructor
  · intro h
    unfold equals at h
    split at h
    · cases h
    next hfamily =>
    rw [not_not] at hfamily
    split at h
    · next hv4 =>
      exact ⟨_, info_inet.mpr ⟨hv4, rfl⟩,
        info_inet.mpr ⟨hfamily.symm.trans hv4, (beq_iff_eq.mp h).symm⟩⟩
    · split at h
      · next hv6 =>
        exact ⟨_, info_inet6.mpr ⟨hv6, rfl⟩,
          info_inet6.mpr ⟨hfamily.symm.trans hv6, (beq_iff_eq.mp h).symm⟩⟩
      · cases h
  · rintro ⟨x, ha, hb⟩
    unfold equals
    cases x with
    | inet v =>
      obtain ⟨hfamily, rfl⟩ := info_inet.mp ha
      obtain ⟨hfamily', hv⟩ := info_inet.mp hb
      simp [hfamily, hfamily', hv]
    | inet6 v =>
      obtain ⟨hfamily, rfl⟩ := info_inet6.mp ha
      obtain ⟨hfamily', hv⟩ := info_inet6.mp hb
      simp [hfamily, hfamily', hv, show afInet6 ≠ afInet by decide]

end SockaddrStorage

/-- Of two lists of the same length without repetitions, one that holds the other holds the same
elements. -/
theorem mem_iff_of_subset {α : Type} {l l' : List α} (hnodup : l'.Nodup)
    (hlength : l.length = l'.length) (hsubset : l' ⊆ l) (x : α) : x ∈ l ↔ x ∈ l' :=
  ((List.subperm_of_subset hnodup hsubset).perm_of_length_le (Nat.le_of_eq hlength)).mem_iff.symm

/-- Lists without repetitions that hold the same elements are of the same length. -/
theorem length_eq_of_mem_iff {α : Type} {l l' : List α} (hl : l.Nodup) (hl' : l'.Nodup)
    (h : ∀ x, x ∈ l ↔ x ∈ l') : l.length = l'.length :=
  ((List.perm_ext_iff_of_nodup hl hl').mpr h).length_eq

namespace ReportedAddresses

variable {a b c : ReportedAddresses}

theorem mem_infos {x : IpAddressInfo} :
    x ∈ a.infos ↔ ∃ s ∈ a.unicastAddressList, s.info = some x := List.mem_filterMap

/-- Every unicast address is one. -/
theorem length_infos (a : ReportedAddresses) :
    a.infos.length = a.unicastAddressList.length := by
  have hknown := a.known
  unfold infos
  generalize a.unicastAddressList = list at hknown
  induction list with
  | nil => rfl
  | cons s list ih =>
    obtain ⟨x, hx⟩ := Option.isSome_iff_exists.mp (hknown s List.mem_cons_self)
    rw [List.filterMap_cons_some hx, List.length_cons, List.length_cons,
      ih fun s' hs' => hknown s' (List.mem_cons_of_mem _ hs')]

/-- An address is found just when it is one of the set. -/
theorem found_iff {s : SockaddrStorage} {x : IpAddressInfo} (hx : s.info = some x) :
    AdapterAddresses.found a.unicastAddressList s = true ↔ x ∈ a.addresses := by
  show _ ↔ x ∈ a.infos
  rw [AdapterAddresses.found, List.any_eq_true, mem_infos]
  refine exists_congr fun s' => and_congr_right fun _ => ?_
  rw [SockaddrStorage.equals_iff, hx]
  simp

/-- All addresses of one adapter are found at the other just when they are addresses of it. -/
theorem all_found_iff : (b.unicastAddressList.all
    (AdapterAddresses.found a.unicastAddressList)) = true ↔ b.addresses ⊆ a.addresses := by
  rw [List.all_eq_true]
  constructor
  · intro h x hx
    obtain ⟨s, hs, hinfo⟩ := mem_infos.mp hx
    exact (found_iff hinfo).mp (h s hs)
  · intro h s hs
    obtain ⟨x, hx⟩ := Option.isSome_iff_exists.mp (b.known s hs)
    exact (found_iff hx).mpr (h (mem_infos.mpr ⟨s, hs, hx⟩))

/-- There is no difference just when all addresses are addresses of the other adapter. -/
theorem difference_eq_nil_iff :
    a.getUnicastAddressDifference b.toAdapterAddresses = [] ↔ a.addresses ⊆ b.addresses := by
  rw [AdapterAddresses.getUnicastAddressDifference, List.filter_eq_nil_iff, ← all_found_iff,
    List.all_eq_true]
  simp

/-- The comparison without the gateways. -/
theorem isSameAddressInfo_false_iff :
    a.isSameAddressInfo false b.toAdapterAddresses = true ↔
      a.infos.length = b.infos.length ∧ b.addresses ⊆ a.addresses := by
  rw [← all_found_iff, length_infos, length_infos, AdapterAddresses.isSameAddressInfo]
  split
  · next h => simp [h]
  · next h => simp [not_not.mp h]

/-- The comparison of the memory is the comparison of the addresses. -/
theorem isSameAddressInfo_eq (x y : NetworkAdapterInfo) (hx : x.unicastAddressList = a.infos)
    (hy : y.unicastAddressList = b.infos) :
    a.isSameAddressInfo false b.toAdapterAddresses = x.isSameAddressInfo y := by
  rw [Bool.eq_iff_iff, isSameAddressInfo_false_iff, NetworkAdapterInfo.isSameAddressInfo, hx, hy]
  simp only [Bool.and_eq_true, beq_iff_eq, List.all_eq_true, NetworkAdapterInfo.hasAddress, hx,
    List.contains_iff_mem]
  rfl

/-- The comparison finds out whether the sets of addresses are the same. -/
theorem isSame_iff_addresses :
    a.isSameAddressInfo false b.toAdapterAddresses = true ↔ a.addresses = b.addresses := by
  rw [isSameAddressInfo_false_iff]
  constructor
  · rintro ⟨hlength, hsubset⟩
    ext x
    exact mem_iff_of_subset b.distinct hlength hsubset x
  · intro h
    exact ⟨length_eq_of_mem_iff a.distinct b.distinct fun x => by
      show x ∈ a.addresses ↔ x ∈ b.addresses
      rw [h], h.symm.subset⟩

/-- `is_same_address_info<false>` decides whether two adapters have the same unicast addresses; so
it is symmetric and transitive, and true just when neither adapter has an address the other has
not. -/
theorem isSameAddressInfo_iff (a b c : ReportedAddresses) :
    (a.isSameAddressInfo false b.toAdapterAddresses = true ↔ a.addresses = b.addresses) ∧
      a.isSameAddressInfo false b.toAdapterAddresses =
        b.isSameAddressInfo false a.toAdapterAddresses ∧
      (a.isSameAddressInfo false b.toAdapterAddresses = true →
        b.isSameAddressInfo false c.toAdapterAddresses = true →
          a.isSameAddressInfo false c.toAdapterAddresses = true) ∧
      (a.isSameAddressInfo false b.toAdapterAddresses = true ↔
        a.getUnicastAddressDifference b.toAdapterAddresses = [] ∧
          b.getUnicastAddressDifference a.toAdapterAddresses = []) := by
  refine ⟨isSame_iff_addresses, ?_, ?_, ?_⟩
  · rw [Bool.eq_iff_iff, isSame_iff_addresses, isSame_iff_addresses, eq_comm]
  · rw [isSame_iff_addresses, isSame_iff_addresses, isSame_iff_addresses]
    exact Eq.trans
  · rw [isSame_iff_addresses, difference_eq_nil_iff, difference_eq_nil_iff]
    exact Set.Subset.antisymm_iff

/-- An address in memory: its family and what is behind it, zero from there on. -/
def sockaddr (ssFamily : UInt16) (memory : List UInt8) : SockaddrStorage where
  ssFamily := ssFamily
  data i := (memory[i.val]?).getD 0

/-- `fe80::1`, behind the port and the flow label. -/
def linkLocal : SockaddrStorage :=
  sockaddr afInet6 ([0, 0, 0, 0, 0, 0] ++ [0xFE, 0x80, 0, 0, 0, 0, 0, 0, 0, 0, 0, 0, 0, 0, 0, 1])

/-- An adapter with `10.0.0.5` and `fe80::1`. -/
def dualStack : ReportedAddresses where
  unicastAddressList := [sockaddr afInet [0, 0, 10, 0, 0, 5], linkLocal]
  gatewayAddressList := []
  known := by decide
  distinct := by decide

/-- The addresses in the other order, one with a port, and a gateway. -/
def reordered : ReportedAddresses where
  unicastAddressList := [linkLocal, sockaddr afInet [0x04, 0x38, 10, 0, 0, 5]]
  gatewayAddressList := [sockaddr afInet [0, 0, 10, 0, 0, 1]]
  known := by decide
  distinct := by decide

/-- An adapter with `10.0.0.6` and `fe80::1`. -/
def readdressed : ReportedAddresses where
  unicastAddressList := [sockaddr afInet [0, 0, 10, 0, 0, 6], linkLocal]
  gatewayAddressList := []
  known := by decide
  distinct := by decide

/-- The order of the addresses does not matter, and another address does. -/
theorem isSameAddressInfo_iff_reordered :
    dualStack.addresses = reordered.addresses ∧ dualStack.addresses ≠ readdressed.addresses ∧
      dualStack.getUnicastAddressDifference reordered.toAdapterAddresses = [] := by
  have hsame := isSameAddressInfo_iff dualStack reordered readdressed
  have hother := isSameAddressInfo_iff dualStack readdressed reordered
  have hreordered : dualStack.isSameAddressInfo false reordered.toAdapterAddresses = true := by
    decide
  have hreaddressed : dualStack.isSameAddressInfo false readdressed.toAdapterAddresses = false := by
    decide
  refine ⟨hsame.1.mp hreordered, fun heq => ?_, (hsame.2.2.2.mp hreordered).1⟩
  rw [hother.1.mpr heq] at hreaddressed
  cases hreaddressed

end ReportedAddresses

end CutieProxy
