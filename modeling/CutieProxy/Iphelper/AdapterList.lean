import CutieProxy.Iphelper.NetworkAdapterInfo
import CutieProxy.Lib.GrowingBuffer

/-!
# The best interface

`get_external_network_connections` takes the table of interfaces once and then asks for the
addresses of the adapters until its buffer is large enough; an adapter is listed when it is up, is
no loopback, has an address, and has a row in the table. `get_best_interface` looks for the index
the system names among them. The adapters may change between two calls: `getBestInterface_last` says
which call the answer is from, and that there is one; `reports_of_getBestInterface` says what the
system reported of the adapter that is found.
-/

namespace CutieProxy

open GrowingBuffer

/-- `IF_TYPE_SOFTWARE_LOOPBACK`. -/
def ifTypeSoftwareLoopback : Nat := 24

/-- `IP_ADAPTER_ADDRESSES`. -/
structure IpAdapterAddresses where
  luid : Nat
  ifIndex : UInt32
  adapterName : String
  ifType : Nat
  /-- `OperStatus` is `IfOperStatusUp`. -/
  operStatusUp : Bool
  unicastAddresses : List IpAddressInfo

/-- `network_adapter_info` with the index `get_best_interface` compares. -/
structure IndexedAdapter extends NetworkAdapterInfo where
  ifIndex : UInt32

namespace IpAdapterAddresses

/-- The adapter is not skipped. -/
def isExternal (a : IpAdapterAddresses) : Bool :=
  !a.unicastAddresses.isEmpty && a.operStatusUp && a.ifType != ifTypeSoftwareLoopback

/-- The constructor of `network_adapter_info`. -/
def info (a : IpAdapterAddresses) : IndexedAdapter where
  luid := a.luid
  ifType := a.ifType
  adapterName := a.adapterName
  unicastAddressList := a.unicastAddresses
  ifIndex := a.ifIndex

/-- The adapter is listed, with `luids` the table of `GetIfTable2`. -/
def isListed (luids : List Nat) (a : IpAdapterAddresses) : Bool :=
  a.isExternal && luids.contains a.luid

end IpAdapterAddresses

/-- The loop over the adapters. -/
def externalAdapters (luids : List Nat) (adapters : List IpAdapterAddresses) :
    List IndexedAdapter :=
  (adapters.filter (·.isListed luids)).map IpAdapterAddresses.info

/-- What the system answers while the best interface is looked up. -/
structure AdapterAnswers where
  /-- `InterfaceLuid` of the rows of `GetIfTable2`, unless it fails. -/
  luids : Option (List Nat)
  /-- What each call of `GetAdaptersAddresses` finds. -/
  calls : Nat → Source (List IpAdapterAddresses)
  /-- `GetBestInterfaceEx`, unless it fails. -/
  bestIfIndex : Option UInt32

namespace AdapterAnswers

/-- `get_external_network_connections`, on a number of calls with a buffer. -/
def getExternalNetworkConnections (s : AdapterAnswers) (calls : Nat) :
    Option (List IndexedAdapter) :=
  match s.luids with
  | none => some []
  | some luids =>
    match (s.calls 0).reply 0 with
    | .tooSmall size =>
      (query id (fun _ => true) s.calls calls 1 size).map fun r =>
        match r.data with
        | some adapters => externalAdapters luids adapters
        | none => []
    | .filled _ | .failed => some []

/-- `get_best_interface`, on a number of calls with a buffer. -/
def getBestInterface (s : AdapterAnswers) (calls : Nat) : Option (Option IndexedAdapter) :=
  (s.getExternalNetworkConnections calls).map fun adapters =>
    match s.bestIfIndex with
    | some index => adapters.find? fun a => a.ifIndex == index
    | none => none

variable {s : AdapterAnswers} {bound calls : Nat} {r : Option IndexedAdapter} {a : IndexedAdapter}

/-- The best interface among the adapters of a call. -/
def bestOf (s : AdapterAnswers) (k : Nat) : Option IndexedAdapter :=
  match s.luids, s.bestIfIndex, (s.calls k).data with
  | some luids, some index, some adapters =>
    (adapters.find? fun x => x.isListed luids && x.ifIndex == index).map IpAdapterAddresses.info
  | _, _, _ => none

theorem find?_externalAdapters (luids : List Nat) (index : UInt32)
    (adapters : List IpAdapterAddresses) :
    ((externalAdapters luids adapters).find? fun a => a.ifIndex == index) =
      (adapters.find? fun x => x.isListed luids && x.ifIndex == index).map
        IpAdapterAddresses.info := by
  rw [externalAdapters, List.find?_map, List.find?_filter]
  refine congrArg (Option.map _) (congrArg (List.find? · adapters) (funext fun x => ?_))
  rw [Bool.eq_iff_iff]
  simp [IpAdapterAddresses.info]

/-- Call `k` ends the loop: it is the first one with a buffer that fails, or that does not find the
adapters larger than the call before. -/
structure IsLast (s : AdapterAnswers) (k : Nat) : Prop where
  pos : 0 < k
  grows : ∀ j, 0 < j → j < k →
    (s.calls j).data.isSome ∧ (s.calls (j - 1)).size < (s.calls j).size
  ends : (s.calls k).data = none ∨ (s.calls k).size ≤ (s.calls (k - 1)).size

/-- The adapters are not asked for: there is no table of interfaces, or the call that asks for the
size fails or finds nothing. -/
def AsksNot (s : AdapterAnswers) : Prop :=
  s.luids = none ∨ (s.calls 0).data = none ∨ (s.calls 0).size = 0

/-- The best interface that is returned is the one of the call that ends the loop. -/
theorem eq_bestOf_of_getBestInterface (h : s.getBestInterface calls = some r) :
    s.AsksNot ∧ r = none ∨ ∃ k, s.IsLast k ∧ r = s.bestOf k := by
  obtain ⟨adapters, hadapters, rfl⟩ := Option.map_eq_some_iff.mp h
  have hempty : adapters = [] → (match s.bestIfIndex with
      | some index => adapters.find? fun a => a.ifIndex == index
      | none => none) = none := fun h => by
    subst h
    cases s.bestIfIndex <;> rfl
  unfold getExternalNetworkConnections at hadapters
  split at hadapters
  · next hluids =>
    cases hadapters
    exact .inl ⟨.inl hluids, hempty rfl⟩
  next luids hluids =>
  split at hadapters
  · next size hfirst =>
    obtain ⟨rfl, -⟩ := lt_of_reply_tooSmall hfirst
    obtain ⟨result, hquery, rfl⟩ := Option.map_eq_some_iff.mp hadapters
    obtain ⟨n, -, ⟨hgrows, hends⟩, hfound, -⟩ := query_last hquery
    have hbuffer : ∀ k, bufferAt id s.calls 1 (s.calls 0).size k = (s.calls k).size := fun k =>
      (bufferAt_id (i := 0) k).trans (by rw [Nat.zero_add])
    simp only [hbuffer, Nat.add_comm 1, reduceCtorEq, or_false] at hgrows hends hfound
    have hdata : result.data = (s.calls (n + 1)).data := by
      rw [hfound, Source.found]
      rcases hends with hnone | hsize
      · rw [hnone, ite_self]
      · rw [if_pos hsize]
    refine .inr ⟨n + 1, ⟨Nat.succ_pos n, fun j hpos hj => ?_, hends⟩, ?_⟩
    · obtain ⟨j, rfl⟩ := Nat.exists_eq_succ_of_ne_zero (Nat.ne_of_gt hpos)
      obtain ⟨hsome, hlt, -⟩ := hgrows j (by omega)
      exact ⟨hsome, hlt⟩
    · rw [bestOf, hluids, hdata]
      cases s.bestIfIndex with
      | none => rfl
      | some index =>
        cases (s.calls (n + 1)).data with
        | none => rfl
        | some adapters => exact find?_externalAdapters luids index adapters
  · next hfirst =>
    cases hadapters
    obtain ⟨-, hsize⟩ := reply_eq_filled.mp hfirst
    exact .inl ⟨.inr (.inr (Nat.le_zero.mp hsize)), hempty rfl⟩
  · next hfirst =>
    cases hadapters
    exact .inl ⟨.inr (.inl (data_of_reply_failed hfirst)), hempty rfl⟩

/-- In the call that ended the loop the system reported the adapter up, with an address and no
loopback, and it named the adapter's index. -/
structure Reports (s : AdapterAnswers) (x : IpAdapterAddresses) : Prop where
  call : ∃ k adapters, s.IsLast k ∧ (s.calls k).data = some adapters ∧ x ∈ adapters
  up : x.operStatusUp = true
  address : x.unicastAddresses ≠ []
  external : x.ifType ≠ ifTypeSoftwareLoopback
  index : s.bestIfIndex = some x.ifIndex

/-- The best interface has the data the system reported of it. -/
theorem reports_of_getBestInterface (h : s.getBestInterface calls = some (some a)) :
    ∃ x, s.Reports x ∧ x.info = a := by
  rcases eq_bestOf_of_getBestInterface h with ⟨-, hnone⟩ | ⟨k, hlast, hbest⟩
  · cases hnone
  · unfold bestOf at hbest
    split at hbest
    · next hluids hindex hdata =>
      obtain ⟨x, hfind, rfl⟩ := Option.map_eq_some_iff.mp hbest.symm
      have hx := List.find?_some hfind
      simp only [IpAdapterAddresses.isListed, IpAdapterAddresses.isExternal, Bool.and_eq_true,
        Bool.not_eq_true', List.isEmpty_eq_false_iff, bne_iff_ne, beq_iff_eq] at hx
      obtain ⟨⟨⟨⟨haddress, hup⟩, hexternal⟩, -⟩, hnamed⟩ := hx
      refine ⟨x, ⟨⟨k, _, hlast, hdata, List.mem_of_find?_eq_some hfind⟩, hup, haddress, hexternal,
        ?_⟩, rfl⟩
      rw [hindex, hnamed]
    · cases hbest

end AdapterAnswers

end CutieProxy
