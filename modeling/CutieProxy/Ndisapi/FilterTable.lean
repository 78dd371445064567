import CutieProxy.Ndisapi.FilterRoundTrip
import Mathlib.Logic.Function.Iterate

/-!
# Storing and loading the table

`store_table` hands all filters to the driver at once, and `load_table` replaces them by what the
driver has. Loading takes the last entry of the table for the default action and skips it, and an
entry without a union selector of the network layer is no filter. The driver is not part of the
source, and whether it keeps a default action behind the entries it was given is a hypothesis
(`FilterDriver.GivesBack`). If it does not, storing and loading again does not come back to the same
filters: `rounds_lose` says what is left after any number of rounds. Of the filters that are left,
the second round undoes what the first one did to their addresses, so that from then on they
alternate (`back_back_back`).
-/

namespace CutieProxy

/-- The structures of the driver: `sizeof(STATIC_FILTER)`, and `sizeof(STATIC_FILTER_TABLE)` without
the one filter that is in it. -/
structure TableLayout extends UnionLayout where
  filterSize : Nat
  headerSize : Nat

namespace TableLayout

/-- The number of values of a `size_t`. -/
def sizeSize : Nat := 18446744073709551616

/-- `sizeof(STATIC_FILTER_TABLE) + sizeof(STATIC_FILTER) * (size - 1)`. -/
def bufferSize (layout : TableLayout) (size : Nat) : Nat :=
  (layout.headerSize + layout.filterSize +
    layout.filterSize * ((size + (sizeSize - 1)) % sizeSize)) % sizeSize

/-- The buffer is the header and the filters, also where there is none and the size runs below
zero. -/
theorem bufferSize_eq {layout : TableLayout} {size : Nat} (hsize : size < sizeSize)
    (hfits : layout.headerSize + layout.filterSize * size < sizeSize) :
    layout.bufferSize size = layout.headerSize + layout.filterSize * size := by
  unfold bufferSize
  cases size with
  | zero =>
    have hsum : layout.headerSize + layout.filterSize + layout.filterSize * (sizeSize - 1) =
        layout.headerSize + layout.filterSize * sizeSize := by
      have hsplit : layout.filterSize * sizeSize =
          layout.filterSize + layout.filterSize * (sizeSize - 1) := by
        rw [Nat.mul_sub, Nat.mul_one]
        have hle := Nat.le_mul_of_pos_right layout.filterSize (by decide : 0 < sizeSize)
        omega
      omega
    rw [Nat.zero_add, Nat.mod_eq_of_lt (Nat.sub_lt (by decide) (by decide)), hsum,
      Nat.add_mul_mod_self_right, Nat.mul_zero, Nat.add_zero, Nat.mod_eq_of_lt]
    exact Nat.lt_of_le_of_lt (Nat.le_add_right _ _) hfits
  | succ n =>
    have hwrap : n + 1 + (sizeSize - 1) = n + sizeSize := by
      have hpos : 0 < sizeSize := by decide
      omega
    rw [hwrap, Nat.add_mod_right, Nat.mod_eq_of_lt (Nat.lt_of_succ_lt hsize), Nat.add_assoc,
      Nat.add_comm layout.filterSize (layout.filterSize * n), ← Nat.mul_succ,
      Nat.mod_eq_of_lt hfits]

end TableLayout

namespace FilterVariant

/-- The filter names something of the network layer. -/
def hasNetwork (f : FilterVariant) : Bool :=
  f.2.sourceAddress.isSome || f.2.destAddress.isSome || f.2.protocol.isSome

/-- The filter that is read from its entry. -/
def back (layout : UnionLayout) (f : FilterVariant) : FilterVariant :=
  ⟨f.1, Filter.fromStaticFilter layout f.2.toStaticFilter {}⟩

/-- What `load_table` makes of an entry: a filter of the family that the union selector names. -/
def ofEntry (layout : UnionLayout) (e : StaticFilterEntry) : Option FilterVariant :=
  e.networkSelector.map fun T => ⟨T, Filter.fromStaticFilter layout e {}⟩

end FilterVariant

/-- The calls of the driver. -/
structure FilterDriver (δ : Type) where
  /-- `SetPacketFilterTable`. -/
  setPacketFilterTable : List StaticFilterEntry → δ → δ
  /-- `GetPacketFilterTableSize`, unless it fails. -/
  getPacketFilterTableSize : δ → Option UInt32
  /-- `GetPacketFilterTable`, likewise. -/
  getPacketFilterTable : δ → Option (List StaticFilterEntry)

/-- A driver that gives back the table that was set, and behind it the default action, if it keeps
one there. -/
structure FilterDriver.GivesBack {δ : Type} (driver : FilterDriver δ)
    (defaultAction : Option StaticFilterEntry) : Prop where
  size : ∀ entries d, driver.getPacketFilterTableSize (driver.setPacketFilterTable entries d) =
    some (UInt32.ofNat (entries ++ defaultAction.toList).length)
  table : ∀ entries d, driver.getPacketFilterTable (driver.setPacketFilterTable entries d) =
    some (entries ++ defaultAction.toList)

namespace StaticFilters

section
variable {δ : Type} (layout : TableLayout) (allocates : Nat → Bool) (driver : FilterDriver δ)

/-- `store_table`, which does not look at what `SetPacketFilterTable` returns. `allocates` tells
whether there is memory for a buffer. -/
def storeTable (filters : List FilterVariant) (d : δ) : Bool × δ :=
  if allocates (layout.bufferSize filters.length) then
    let staticFilters := (filters.map FilterVariant.toStaticFilter).take
      (filters.length % uint32Size)
    (true, driver.setPacketFilterTable staticFilters d)
  else (false, d)

/-- `load_table`, with the new `filters_`; nothing where there is no memory, which it does not
catch. -/
def loadTable (filters : List FilterVariant) (d : δ) : Option (Bool × List FilterVariant) :=
  match driver.getPacketFilterTableSize d with
  | none => some (false, filters)
  | some tableSize =>
    if tableSize = 0 then some (false, filters)
    else if allocates (layout.bufferSize tableSize.toNat) then
      match driver.getPacketFilterTable d with
      | none => some (false, filters)
      | some staticFilters =>
        some (true, (staticFilters.take (tableSize.toNat - 1)).filterMap
          (FilterVariant.ofEntry layout.toUnionLayout))
    else none

/-- The table is stored and loaded again. -/
def round (s : List FilterVariant × δ) : Option (List FilterVariant × δ) :=
  let d := (storeTable layout allocates driver s.1 s.2).2
  (loadTable layout allocates driver s.1 d).map fun (_, filters) => (filters, d)

/-- That many times. -/
def rounds (s : List FilterVariant × δ) : Nat → Option (List FilterVariant × δ)
  | 0 => some s
  | k + 1 => (rounds s k).bind (round layout allocates driver)

end

end StaticFilters

/-! ## What is read back -/

namespace FilterVariant

variable {layout : UnionLayout} {f : FilterVariant}

/-- The entry of a filter is read unless nothing of the network layer is in it. -/
theorem ofEntry_toStaticFilter (layout : UnionLayout) (f : FilterVariant) :
    ofEntry layout f.toStaticFilter = if f.hasNetwork then some (f.back layout) else none := by
  unfold ofEntry FilterVariant.toStaticFilter
  have hselector : f.2.toStaticFilter.networkSelector =
      if f.hasNetwork then some f.1 else none := rfl
  rw [hselector]
  cases f.hasNetwork with
  | false => rfl
  | true => rfl

theorem back_eq (layout : UnionLayout) {T : IpFamily} (f : Filter T) :
    back layout ⟨T, f⟩ =
      ⟨T, { f with
        sourceAddress := f.sourceAddress.map Filter.backSubnet
        destAddress := f.destAddress.map Filter.backSubnet
        protocol := f.protocol.map (Filter.backProtocol layout f)
        sourcePort :=
          if f.protocol = some ipprotoTcp ∨ f.protocol = some ipprotoUdp then f.sourcePort
          else none
        destPort :=
          if f.protocol = some ipprotoTcp ∨ f.protocol = some ipprotoUdp then f.destPort
          else none }⟩ :=
  congrArg (Sigma.mk T) (Filter.fromStaticFilter_toStaticFilter layout f)

theorem hasNetwork_back (layout : UnionLayout) (f : FilterVariant) :
    (f.back layout).hasNetwork = f.hasNetwork := by
  obtain ⟨T, f⟩ := f
  rw [back_eq]
  simp [hasNetwork]

theorem hasNetwork_iterate (layout : UnionLayout) (k : Nat) (f : FilterVariant) :
    ((back layout)^[k] f).hasNetwork = f.hasNetwork := by
  induction k with
  | zero => rfl
  | succ k ih => rw [Function.iterate_succ_apply', hasNetwork_back, ih]

theorem backSubnet_backSubnet {T : IpFamily} (n : Subnet T) :
    Filter.backSubnet (Filter.backSubnet n) = n := by
  cases T with
  | v4 => rfl
  | v6 => rfl

theorem map_backSubnet {T : IpFamily} (subnet : Option (Subnet T)) :
    (subnet.map Filter.backSubnet).map Filter.backSubnet = subnet := by
  cases subnet with
  | none => rfl
  | some n => exact congrArg some (backSubnet_backSubnet n)

/-- The byte that is taken for the protocol of an IPv6 filter is one of its source address, which is
read as it is. -/
theorem maskByte_mk (layout : UnionLayout) (f : Filter .v6) (adapter : UInt64)
    (sourceHw destHw : Option MacAddress) (etherType : Option UInt16) (dest : Option (Subnet .v6))
    (sourcePort destPort : Option (UInt16 × UInt16)) (protocol : Option UInt8)
    (direction : Direction) (action : FilterAction) :
    Filter.maskByte layout ⟨adapter, sourceHw, destHw, etherType, f.sourceAddress, dest, sourcePort,
      destPort, protocol, direction, action⟩ = f.maskByte layout := rfl

theorem map_backSubnet_v6 (subnet : Option (Subnet .v6)) :
    subnet.map Filter.backSubnet = subnet := by
  cases subnet with
  | none => rfl
  | some n => rfl

/-- From the second round on filters alternate. -/
theorem back_back_back (layout : UnionLayout) (f : FilterVariant) :
    (((f.back layout).back layout).back layout).back layout = (f.back layout).back layout := by
  obtain ⟨T, f⟩ := f
  cases T with
  | v4 =>
    simp only [back_eq, map_backSubnet]
    cases f.protocol with
    | none => simp
    | some p => by_cases hp : p = ipprotoTcp ∨ p = ipprotoUdp <;> simp [Filter.backProtocol, hp]
  | v6 =>
    simp only [back_eq, map_backSubnet_v6]
    cases f.protocol with
    | none => simp
    | some p =>
      by_cases hp : p = ipprotoTcp ∨ p = ipprotoUdp <;>
        by_cases hm : f.maskByte layout = ipprotoTcp ∨ f.maskByte layout = ipprotoUdp <;>
          simp [Filter.backProtocol, maskByte_mk, hp, hm]

end FilterVariant

namespace StaticFilters

section
variable {δ : Type} {layout : TableLayout} {allocates : Nat → Bool} {driver : FilterDriver δ}
  {defaultAction : Option StaticFilterEntry} {filters : List FilterVariant}

/-- There is memory for the tables of so many entries. -/
structure HasMemory (layout : TableLayout) (allocates : Nat → Bool) (size : Nat) : Prop where
  isUInt32 : size < uint32Size
  fits : layout.headerSize + layout.filterSize * size < TableLayout.sizeSize
  allocates : ∀ n ≤ size, allocates (layout.headerSize + layout.filterSize * n) = true

theorem HasMemory.bufferSize {size n : Nat} (h : HasMemory layout allocates size) (hn : n ≤ size) :
    allocates (layout.bufferSize n) = true := by
  have hfits : layout.headerSize + layout.filterSize * n < TableLayout.sizeSize :=
    Nat.lt_of_le_of_lt (Nat.add_le_add_left (Nat.mul_le_mul_left _ hn) _) h.fits
  have huint32 : n < TableLayout.sizeSize :=
    Nat.lt_trans (Nat.lt_of_le_of_lt hn h.isUInt32) (by decide)
  rw [TableLayout.bufferSize_eq huint32 hfits]
  exact h.allocates n hn

theorem HasMemory.mono {size n : Nat} (h : HasMemory layout allocates size) (hn : n ≤ size) :
    HasMemory layout allocates n :=
  ⟨Nat.lt_of_le_of_lt hn h.isUInt32,
    Nat.lt_of_le_of_lt (Nat.add_le_add_left (Nat.mul_le_mul_left _ hn) _) h.fits,
    fun m hm => h.allocates m (hm.trans hn)⟩

/-- The driver has the filters after a store, whatever it had before. -/
theorem storeTable_eq (h : HasMemory layout allocates filters.length) (d : δ) :
    storeTable layout allocates driver filters d =
      (true, driver.setPacketFilterTable (filters.map FilterVariant.toStaticFilter) d) := by
  have hall : (filters.map FilterVariant.toStaticFilter).take filters.length =
      filters.map FilterVariant.toStaticFilter := List.take_of_length_le (by rw [List.length_map])
  rw [storeTable, if_pos (h.bufferSize le_rfl), Nat.mod_eq_of_lt h.isUInt32, hall]

/-- What a load reads of a table that was stored. -/
theorem filterMap_ofEntry (layout : UnionLayout) (filters : List FilterVariant) :
    (filters.map FilterVariant.toStaticFilter).filterMap (FilterVariant.ofEntry layout) =
      (filters.filter FilterVariant.hasNetwork).map (FilterVariant.back layout) := by
  induction filters with
  | nil => rfl
  | cons f filters ih =>
    have hentry := FilterVariant.ofEntry_toStaticFilter layout f
    cases hnetwork : f.hasNetwork with
    | false =>
      rw [hnetwork] at hentry
      rw [List.map_cons, List.filterMap_cons_none hentry,
        List.filter_cons_of_neg (by simp [hnetwork]), ih]
    | true =>
      rw [hnetwork] at hentry
      rw [List.map_cons, List.filterMap_cons_some hentry, List.filter_cons_of_pos hnetwork,
        List.map_cons, ih]

/-- The filters whose entries a load reads: it takes the last entry for the default action, also
where the driver keeps none. -/
def read (defaultAction : Option StaticFilterEntry) (filters : List FilterVariant) :
    List FilterVariant :=
  match defaultAction with
  | none => filters.dropLast
  | some _ => filters

theorem length_read_le (defaultAction : Option StaticFilterEntry) (filters : List FilterVariant) :
    (read defaultAction filters).length ≤ filters.length := by
  cases defaultAction with
  | none => exact List.length_dropLast.trans_le (Nat.sub_le _ _)
  | some entry => exact le_rfl

theorem take_entries (defaultAction : Option StaticFilterEntry) (filters : List FilterVariant) :
    ((filters.map FilterVariant.toStaticFilter) ++ defaultAction.toList).take
        (((filters.map FilterVariant.toStaticFilter) ++ defaultAction.toList).length - 1) =
      (read defaultAction filters).map FilterVariant.toStaticFilter := by
  cases defaultAction with
  | none => simp [read, List.dropLast_eq_take, List.map_take]
  | some entry =>
    simp only [read, Option.toList_some, List.length_append, List.length_singleton,
      Nat.add_sub_cancel]
    exact List.take_left

/-- A load reads the entries but the last one, and of these the ones with anything of the network
layer. -/
theorem loadTable_eq (hdriver : driver.GivesBack defaultAction)
    (h : HasMemory layout allocates (filters.length + defaultAction.toList.length)) (d : δ) :
    (loadTable layout allocates driver filters
        (driver.setPacketFilterTable (filters.map FilterVariant.toStaticFilter) d)).map (·.2) =
      some (((read defaultAction filters).filter FilterVariant.hasNetwork).map
        (FilterVariant.back layout.toUnionLayout)) := by
  have hlength : ((filters.map FilterVariant.toStaticFilter) ++ defaultAction.toList).length =
      filters.length + defaultAction.toList.length := by rw [List.length_append, List.length_map]
  have htoNat : (UInt32.ofNat (filters.length + defaultAction.toList.length)).toNat =
      filters.length + defaultAction.toList.length := UInt32.toNat_ofNat_of_lt' h.isUInt32
  have htake := take_entries defaultAction filters
  have hread := filterMap_ofEntry layout.toUnionLayout (read defaultAction filters)
  rw [hlength] at htake
  unfold loadTable
  rw [hdriver.size, hlength]
  dsimp only
  by_cases hzero : UInt32.ofNat (filters.length + defaultAction.toList.length) = 0
  · -- an empty table is not read, and there is nothing to lose
    have hnone : filters.length + defaultAction.toList.length = 0 := by
      rw [← htoNat, hzero]
      rfl
    have hnil : filters = [] := List.length_eq_zero_iff.mp (Nat.eq_zero_of_add_eq_zero_right hnone)
    rw [if_pos hzero, hnil]
    cases defaultAction with
    | none => rfl
    | some entry => rfl
  · rw [if_neg hzero, htoNat, if_pos (h.bufferSize le_rfl), hdriver.table]
    dsimp only [Option.map_some]
    rw [htake, hread]

/-- A round leaves the filters that are read, without those that have nothing of the network
layer. -/
theorem round_eq (hdriver : driver.GivesBack defaultAction)
    (h : HasMemory layout allocates (filters.length + defaultAction.toList.length)) (d : δ) :
    ∃ d', round layout allocates driver (filters, d) =
      some (((read defaultAction filters).filter FilterVariant.hasNetwork).map
        (FilterVariant.back layout.toUnionLayout), d') := by
  refine ⟨driver.setPacketFilterTable (filters.map FilterVariant.toStaticFilter) d, ?_⟩
  have hload := loadTable_eq hdriver h d
  rw [Option.map_eq_some_iff] at hload
  obtain ⟨⟨success, loaded⟩, hload, hloaded⟩ := hload
  rw [round]
  simp only [storeTable_eq (h.mono (Nat.le_add_right _ _)) d, hload, Option.map_some]
  rw [← hloaded]

/-- The filters that a number of rounds after the first leaves: one less for each of them, unless
the driver keeps a default action. -/
def left (defaultAction : Option StaticFilterEntry) (filters : List FilterVariant) (k : Nat) :
    List FilterVariant :=
  match defaultAction with
  | none => filters.take (filters.length - k)
  | some _ => filters

theorem read_left (defaultAction : Option StaticFilterEntry) (filters : List FilterVariant)
    (k : Nat) : read defaultAction (left defaultAction filters k) =
      left defaultAction filters (k + 1) := by
  cases defaultAction with
  | none =>
    simp only [read, left]
    rw [List.dropLast_eq_take, List.take_take, List.length_take]
    congr 1
    omega
  | some entry => rfl

theorem left_zero (defaultAction : Option StaticFilterEntry) (filters : List FilterVariant) :
    left defaultAction filters 0 = filters := by
  cases defaultAction with
  | none => rw [left, Nat.sub_zero, List.take_length]
  | some entry => rfl

theorem left_sublist (defaultAction : Option StaticFilterEntry) (filters : List FilterVariant)
    (k : Nat) : (left defaultAction filters k).Sublist filters := by
  cases defaultAction with
  | none => exact List.take_sublist _ _
  | some entry => exact List.Sublist.refl _

theorem read_map (defaultAction : Option StaticFilterEntry) (g : FilterVariant → FilterVariant)
    (filters : List FilterVariant) :
    read defaultAction (filters.map g) = (read defaultAction filters).map g := by
  cases defaultAction with
  | none => exact List.map_dropLast.symm
  | some entry => rfl

/-- With a driver that gives back what was set, and keeps no default action, there is after any
number of rounds one filter less for each of them, and those without anything of the network layer
are gone with the first; with one that keeps a default action only these are. The others are read
back as often as there were rounds. From the second round on that alternates between two lists of
filters. -/
theorem rounds_lose (hdriver : driver.GivesBack defaultAction)
    (h : HasMemory layout allocates (filters.length + defaultAction.toList.length)) (d : δ)
    (k : Nat) :
    (∃ d', rounds layout allocates driver (filters, d) (k + 1) =
        some ((left defaultAction
          ((read defaultAction filters).filter FilterVariant.hasNetwork) k).map
            ((FilterVariant.back layout.toUnionLayout)^[k + 1]), d')) ∧
      (FilterVariant.back layout.toUnionLayout)^[k + 4] =
        (FilterVariant.back layout.toUnionLayout)^[k + 2] := by
  refine ⟨?_, funext fun f => ?_⟩
  · induction k with
    | zero =>
      rw [left_zero]
      exact round_eq hdriver h d
    | succ k ih =>
      obtain ⟨d', hrounds⟩ := ih
      -- what is left has something of the network layer, and keeps it
      have hnetwork : ∀ f ∈ (left defaultAction
          ((read defaultAction filters).filter FilterVariant.hasNetwork) (k + 1)).map
            ((FilterVariant.back layout.toUnionLayout)^[k + 1]), f.hasNetwork = true := by
        intro f hf
        obtain ⟨g, hg, rfl⟩ := List.mem_map.mp hf
        have hkept := (List.mem_filter.mp ((left_sublist _ _ _).subset hg)).2
        rw [FilterVariant.hasNetwork_iterate, hkept]
      have hshort : ((left defaultAction
          ((read defaultAction filters).filter FilterVariant.hasNetwork) k).map
            ((FilterVariant.back layout.toUnionLayout)^[k + 1])).length ≤ filters.length := by
        rw [List.length_map]
        calc (left defaultAction ((read defaultAction filters).filter
                FilterVariant.hasNetwork) k).length
            ≤ ((read defaultAction filters).filter FilterVariant.hasNetwork).length :=
              (left_sublist _ _ _).length_le
          _ ≤ (read defaultAction filters).length := List.length_filter_le _ _
          _ ≤ filters.length := length_read_le _ _
      obtain ⟨d'', hround⟩ := round_eq hdriver (h.mono (Nat.add_le_add_right hshort _)) d'
      refine ⟨d'', ?_⟩
      rw [rounds, hrounds, Option.bind_some, hround, read_map, read_left,
        List.filter_eq_self.mpr hnetwork, List.map_map, ← Function.iterate_succ']
  · rw [Function.iterate_add_apply, Function.iterate_add_apply _ k 2]
    exact congrArg _ (FilterVariant.back_back_back layout.toUnionLayout f)

end

/-- The driver's structures. -/
def someTable : TableLayout := { Filter.doubleWord with filterSize := 120, headerSize := 8 }

/-- A driver that keeps the table it was given, and this default action behind it. -/
def someDriver (defaultAction : Option StaticFilterEntry) :
    FilterDriver (List StaticFilterEntry) where
  setPacketFilterTable entries _ := entries ++ defaultAction.toList
  getPacketFilterTableSize entries := some (UInt32.ofNat entries.length)
  getPacketFilterTable := some

theorem someDriver_givesBack (defaultAction : Option StaticFilterEntry) :
    (someDriver defaultAction).GivesBack defaultAction := ⟨fun _ _ => rfl, fun _ _ => rfl⟩

/-- Three filters: for TCP, for UDP, and for a range of ports only. -/
def threeFilters : List FilterVariant :=
  [⟨.v4, { protocol := some ipprotoTcp }⟩, ⟨.v4, { protocol := some ipprotoUdp }⟩,
    ⟨.v4, { destPort := some (80, 80) }⟩]

/-- Two rounds leave the filter for TCP, and with a default action those for TCP and UDP. -/
theorem rounds_lose_three :
    ((rounds someTable (fun _ => true) (someDriver none) (threeFilters, []) 2).map (·.1) =
      some [FilterVariant.back someTable.toUnionLayout
        (FilterVariant.back someTable.toUnionLayout ⟨.v4, { protocol := some ipprotoTcp }⟩)]) ∧
    (rounds someTable (fun _ => true) (someDriver (some {})) (threeFilters, []) 2).map
        (·.1.length) = some 2 := by
  have hmemory (n : Nat) (hn : n ≤ 4) : HasMemory someTable (fun _ => true) n :=
    ⟨Nat.lt_of_le_of_lt hn (by decide),
      Nat.lt_of_le_of_lt (Nat.add_le_add_left (Nat.mul_le_mul_left _ hn) _) (by decide),
      fun _ _ => rfl⟩
  obtain ⟨⟨_, hnone⟩, -⟩ := rounds_lose (someDriver_givesBack none)
    (hmemory (threeFilters.length + 0) (by decide)) [] 1
  obtain ⟨⟨_, hsome⟩, -⟩ := rounds_lose (someDriver_givesBack (some {}))
    (hmemory (threeFilters.length + 1) (by decide)) [] 1
  rw [hnone, hsome]
  exact ⟨rfl, rfl⟩

end StaticFilters

end CutieProxy
