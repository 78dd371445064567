import CutieProxy.Iphelper.ProcessLookup
import CutieProxy.Lib.GrowingBuffer
import CutieProxy.Net.Inet

/-!
# Filling the tables of `process_lookup`

`initialize_tcp_table` and `initialize_udp_table` clear their table, ask the IP Helper API for the
rows until the buffer is large enough, and enter the owner of every row whose module the API names.
The buffer is kept for the next time, and its size is a `DWORD` that is doubled.
`actualize_refreshes` says that this ends, after how many calls, and what is in the tables then.
-/

namespace CutieProxy

open GrowingBuffer

/-! ## Rows -/

/-- What `GetOwnerModuleFromTcpEntry` and its siblings answer for a row. -/
structure OwnerModule where
  /-- The call without a buffer returns `ERROR_INSUFFICIENT_BUFFER`. -/
  sized : Bool
  /-- `pModuleName` and `pModulePath`, when the second call succeeds. -/
  info : Option (Option (List UInt16) × Option (List UInt16))

/-- `MIB_TCPROW_OWNER_MODULE` and `MIB_TCP6ROW_OWNER_MODULE`; the former has no scopes. -/
structure TcpRow (T : IpFamily) where
  localAddr : T.Address
  remoteAddr : T.Address
  localPort : UInt32
  remotePort : UInt32
  localScopeId : UInt32 := 0
  remoteScopeId : UInt32 := 0
  owningPid : UInt32
  ownerModule : OwnerModule

/-- `MIB_UDPROW_OWNER_MODULE` and `MIB_UDP6ROW_OWNER_MODULE`. -/
structure UdpRow (T : IpFamily) where
  localAddr : T.Address
  localPort : UInt32
  owningPid : UInt32
  ownerModule : OwnerModule

/-- The scope of an endpoint, which only an IPv6 one is given. -/
def IpFamily.scope : IpFamily → UInt32 → Option UInt32
  | .v4, _ => none
  | .v6, id => some id

/-- The body of the four functions `process_…_entry_v…`. -/
def OwnerModule.process (m : OwnerModule) (owningPid : UInt32) : Option NetworkProcess :=
  if m.sized then
    match m.info with
    | some (some name, some path) => some ⟨owningPid, name, path⟩
    | _ => none
  else none

variable {T : IpFamily}

/-- The key a row is entered under. -/
def TcpRow.session (row : TcpRow T) : IpSession T.Address :=
  ⟨⟨row.localAddr, ntohs row.localPort.toUInt16, T.scope row.localScopeId⟩,
    ⟨row.remoteAddr, ntohs row.remotePort.toUInt16, T.scope row.remoteScopeId⟩⟩

/-- `process_tcp_entry_v4` and `process_tcp_entry_v6`. -/
def TcpRow.processEntry (row : TcpRow T) : Option NetworkProcess :=
  row.ownerModule.process row.owningPid

/-- The key a row is entered under, whose scope is always zero. -/
def UdpRow.endpoint (row : UdpRow T) : IpEndpoint T.Address :=
  ⟨row.localAddr, ntohs row.localPort.toUInt16, T.scope 0⟩

/-- `process_udp_entry_v4` and `process_udp_entry_v6`. -/
def UdpRow.processEntry (row : UdpRow T) : Option NetworkProcess :=
  row.ownerModule.process row.owningPid

section
variable {ρ κ : Type} [DecidableEq κ]

/-- The loop over the rows. -/
def enterRows (key : ρ → κ) (owner : ρ → Option NetworkProcess) (rows : List ρ) :
    Table κ NetworkProcess :=
  rows.foldl (fun t row =>
    match owner row with
    | some process => t.insert (key row) process
    | none => t) .empty

/-- The owner of the last row for a key that has one. -/
def lastOwner (key : ρ → κ) (owner : ρ → Option NetworkProcess) (rows : List ρ) (k : κ) :
    Option NetworkProcess :=
  rows.reverse.findSome? fun row => if key row = k then owner row else none

/-- A later row for the same key replaces an earlier one, unless it has no owner. -/
theorem find_enterRows (key : ρ → κ) (owner : ρ → Option NetworkProcess) (rows : List ρ) (k : κ) :
    (enterRows key owner rows).find k = lastOwner key owner rows k := by
  induction rows using List.reverseRecOn with
  | nil => rfl
  | append_singleton rows row ih =>
    rw [enterRows, List.foldl_append, List.foldl_cons, List.foldl_nil, lastOwner,
      List.reverse_append, List.reverse_singleton, List.singleton_append, List.findSome?_cons]
    change Table.find (match owner row with
      | some process => (enterRows key owner rows).insert (key row) process
      | none => enterRows key owner rows) k = _
    rcases eq_or_ne (key row) k with rfl | hne
    · rw [if_pos rfl]
      cases owner row with
      | some process => exact Table.find_insert_self
      | none => exact ih
    · rw [if_neg hne]
      cases owner row with
      | some process => exact (Table.find_insert_of_ne hne.symm).trans ih
      | none => exact ih

end

/-! ## The tables -/

/-- A buffer of the IP Helper API with `table_buffer_size_…`, which is what was allocated. -/
structure TableBuffer where
  size : UInt32 := 0
  allocated : Nat := 0
  sized : allocated = size.toNat := by rfl

/-- `make_unique<char[]>(table_size)`, for a size that fits. -/
def TableBuffer.make (n : Nat) : TableBuffer := ⟨UInt32.ofNat n, (UInt32.ofNat n).toNat, rfl⟩

/-- `table_size *= 2`. -/
def doubled (size : Nat) : Nat := 2 * size % 4294967296

/-- What the system answers while a table is filled. -/
structure TableAnswers (ρ : Type) where
  /-- What each call of `GetExtendedTcpTable` or `GetExtendedUdpTable` finds. -/
  calls : Nat → Source (List ρ)
  /-- `make_unique` after a call does not throw. -/
  allocates : Nat → Bool := fun _ => true
  /-- After how many rows entering one throws, if there are more. -/
  throws : Option Nat := none

/-- `process_lookup` with its two buffers. -/
structure ProcessTables (T : IpFamily) where
  lookup : ProcessLookup T.Address := {}
  tcpBuffer : TableBuffer := {}
  udpBuffer : TableBuffer := {}

namespace ProcessTables

/-- What the function returns and the rows it enters, by what its calls ended with. -/
def entered {ρ : Type} (throws : Option Nat) : Option (List ρ) → Bool × List ρ
  | none => (false, [])
  | some rows =>
    match throws with
    | none => (true, rows)
    | some n => (decide (rows.length ≤ n), rows.take n)

/-- The loop of calls: what the function returns, the rows it enters, and the buffer it leaves. -/
def fetch {ρ : Type} (a : TableAnswers ρ) (calls : Nat) (b : TableBuffer) :
    Option (Bool × List ρ × TableBuffer) :=
  (query doubled a.allocates a.calls calls 0 b.allocated).map fun r =>
    let (ok, rows) := entered a.throws r.data
    (ok, rows, TableBuffer.make (r.sizes.getLastD 0))

/-- `initialize_tcp_table`, with a bound for the number of its calls. -/
def initializeTcpTable (a : TableAnswers (TcpRow T)) (calls : Nat) (s : ProcessTables T) :
    Option (Bool × ProcessTables T) :=
  (fetch a calls s.tcpBuffer).map fun (ok, rows, b) =>
    (ok, { s with
      lookup := s.lookup.initializeTcpTable (enterRows TcpRow.session TcpRow.processEntry rows)
      tcpBuffer := b })

/-- `initialize_udp_table`, with a bound for the number of its calls. -/
def initializeUdpTable (a : TableAnswers (UdpRow T)) (calls : Nat) (s : ProcessTables T) :
    Option (Bool × ProcessTables T) :=
  (fetch a calls s.udpBuffer).map fun (ok, rows, b) =>
    (ok, { s with
      lookup := s.lookup.initializeUdpTable (enterRows UdpRow.endpoint UdpRow.processEntry rows)
      udpBuffer := b })

/-- The first half of `actualize`. -/
def actualizeTcp (tcp : Bool) (a : TableAnswers (TcpRow T)) (calls : Nat) (s : ProcessTables T) :
    Option (Bool × ProcessTables T) :=
  if tcp then s.initializeTcpTable a calls else some (true, s)

/-- The second half of `actualize`. -/
def actualizeUdp (udp : Bool) (a : TableAnswers (UdpRow T)) (calls : Nat) (s : ProcessTables T) :
    Option (Bool × ProcessTables T) :=
  if udp then s.initializeUdpTable a calls else some (true, s)

/-- `actualize`. -/
def actualize (tcp udp : Bool) (a : TableAnswers (TcpRow T)) (a' : TableAnswers (UdpRow T))
    (calls : Nat) (s : ProcessTables T) : Option (Bool × ProcessTables T) := do
  let (retTcp, s) ← s.actualizeTcp tcp a calls
  let (retUdp, s) ← s.actualizeUdp udp a' calls
  return (retUdp && retTcp, s)

/-! ## What a refresh leaves -/

/-- The rows that call `k` found with the buffer it was handed, where the first call was handed `b`;
none if the call failed, or the buffer was too small. -/
def found {ρ : Type} (a : TableAnswers ρ) (b : TableBuffer) (k : Nat) : Option (List ρ) :=
  (a.calls k).found (bufferAt doubled a.calls 0 b.allocated k)

/-- A table after a refresh that found the buffer `before`, and whose last call was call `k`: it
holds the owners of the rows this call found, up to the one that throws if one does. The refresh
succeeds unless the call found none, or one throws. -/
structure Refreshed {ρ κ : Type} [DecidableEq κ] (key : ρ → κ) (owner : ρ → Option NetworkProcess)
    (a : TableAnswers ρ) (ok : Bool) (before after : TableBuffer) (t : Table κ NetworkProcess)
    (k : Nat) : Prop where
  last : LastCall doubled a.allocates a.calls 0 before.allocated k
  buffer : after.allocated = bufferAt doubled a.calls 0 before.allocated k
  ok_iff : ok = true ↔
    ∃ rows, found a before k = some rows ∧ ∀ n ∈ a.throws, rows.length ≤ n
  table : ∀ x, t.find x = lastOwner key owner
    (((found a before k).getD []).take (a.throws.getD ((found a before k).getD []).length)) x

/-- A table and its buffer after `actualize`: refreshed, or as they were. -/
def Settled {ρ κ : Type} [DecidableEq κ] (key : ρ → κ) (owner : ρ → Option NetworkProcess)
    (a : TableAnswers ρ) (asked ok : Bool) (before after : TableBuffer × Table κ NetworkProcess) :
    Prop :=
  (asked = true → ∃ k, Refreshed key owner a ok before.1 after.1 after.2 k) ∧
    (asked = false → ok = true ∧ after = before)

/-- The TCP table and its buffer. -/
def tcpPart (s : ProcessTables T) :
    TableBuffer × Table (IpSession T.Address) NetworkProcess :=
  (s.tcpBuffer, s.lookup.tcpToApp)

/-- The UDP table and its buffer. -/
def udpPart (s : ProcessTables T) :
    TableBuffer × Table (IpEndpoint T.Address) NetworkProcess :=
  (s.udpBuffer, s.lookup.udpToApp)

variable {ρ κ : Type} {a : TableAnswers ρ} {b : TableBuffer} {bound : Nat}

theorem doubled_of_le {size : Nat} (hbound : bound < 2147483648) (hsize : size ≤ bound) :
    doubled size = 2 * size := Nat.mod_eq_of_lt (by omega)

/-- A refresh makes at most one call more than the bound has binary digits. -/
theorem fetch_ends (hpos : 0 < bound) (hbound : bound < 2147483648)
    (hsize : ∀ i, (a.calls i).size ≤ bound) (b : TableBuffer) :
    ∃ r, ∀ calls, Nat.log 2 bound + 1 < calls → fetch a calls b = some r := by
  have hlowers : ∀ i capacity, capacity < (a.calls i).size →
      doublings bound (doubled (a.calls i).size) < doublings bound capacity := by
    intro i capacity hlt
    rw [doubled_of_le hbound (hsize i)]
    exact doubling_lowers (hsize i) hlt
  obtain ⟨r, hquery, -⟩ := @query_ends _ _ a.allocates _ (doublings bound) hlowers 0 b.allocated
  have hmeasure : doublings bound b.allocated ≤ Nat.log 2 bound + 1 := doublings_le hpos
  have hfetch : ∀ calls, Nat.log 2 bound + 1 < calls →
      fetch a calls b = (some r).map _ := fun calls hcalls =>
    congrArg (Option.map _) (hquery calls (by omega))
  exact ⟨_, hfetch⟩

/-- The buffer of a finished loop has the size its last call was handed. -/
theorem allocated_make {calls : Nat} {r : Result (List ρ)}
    (h : query doubled a.allocates a.calls calls 0 b.allocated = some r) {last : Nat}
    {sizes : List Nat} (hsizes : r.sizes = sizes ++ [last]) :
    (TableBuffer.make (r.sizes.getLastD 0)).allocated = last := by
  have hlast : r.sizes.getLastD 0 = last := by rw [hsizes, List.getLastD_concat]
  have hlt : last < 4294967296 := by
    rcases sizes_of_query h last (hsizes ▸ List.mem_concat_self) with rfl | ⟨j, rfl⟩
    · rw [b.sized]
      exact b.size.toNat_lt
    · exact Nat.mod_lt _ (by decide)
  rw [hlast]
  exact UInt32.toNat_ofNat_of_lt' hlt

/-- What the function returns and the rows it enters, without the cases. -/
theorem entered_eq (throws : Option Nat) (rows : Option (List ρ)) :
    ((entered throws rows).1 = true ↔ ∃ l, rows = some l ∧ ∀ n ∈ throws, l.length ≤ n) ∧
      (entered throws rows).2 = (rows.getD []).take (throws.getD (rows.getD []).length) := by
  cases rows with
  | none => simp [entered]
  | some l => cases throws <;> simp [entered]

/-- What the loop over the rows makes of a finished loop of calls. -/
theorem refreshed_of_fetch [DecidableEq κ] (key : ρ → κ) (owner : ρ → Option NetworkProcess)
    {calls : Nat} {ok : Bool} {rows : List ρ} {b' : TableBuffer}
    (h : fetch a calls b = some (ok, rows, b')) :
    ∃ k, Refreshed key owner a ok b b' (enterRows key owner rows) k := by
  obtain ⟨r, hquery, hr⟩ := Option.map_eq_some_iff.mp h
  obtain ⟨k, sizes, hlast, hdata, hsizes⟩ := query_last hquery
  have hmake := allocated_make hquery hsizes
  rw [Nat.zero_add] at hdata
  cases hr
  obtain ⟨hok, hrows⟩ := entered_eq a.throws r.data
  rw [hdata] at hok hrows
  refine ⟨k, hlast, hmake, ?_, fun x => ?_⟩
  · rw [hdata]
    exact hok
  · rw [hdata]
    exact (find_enterRows key owner _ x).trans (congrArg (lastOwner key owner · x) hrows)

/-- A buffer that holds what the first call finds is not replaced. -/
theorem fetch_of_le {rows : List ρ} (hdata : (a.calls 0).data = some rows)
    (hsize : (a.calls 0).size ≤ b.allocated) :
    ∃ ok rows', fetch a 1 b = some (ok, rows', b) := by
  have hmake : TableBuffer.make b.allocated = b := by
    obtain ⟨size, allocated, rfl⟩ := b
    simp [TableBuffer.make]
  refine ⟨(entered a.throws (some rows)).1, (entered a.throws (some rows)).2, ?_⟩
  rw [fetch, query_of_le hdata hsize]
  simp [hmake]

/-- The first half of `actualize` ends, and does not touch the UDP table. -/
theorem actualizeTcp_ends {a : TableAnswers (TcpRow T)} (hpos : 0 < bound)
    (hbound : bound < 2147483648) (hsize : ∀ i, (a.calls i).size ≤ bound) (tcp : Bool)
    (s : ProcessTables T) :
    ∃ ok t, (∀ calls, Nat.log 2 bound + 1 < calls → s.actualizeTcp tcp a calls = some (ok, t)) ∧
      Settled TcpRow.session TcpRow.processEntry a tcp ok s.tcpPart t.tcpPart ∧
      t.udpPart = s.udpPart := by
  cases tcp with
  | false =>
    refine ⟨true, s, fun _ _ => rfl, ⟨fun h => ?_, fun _ => ⟨rfl, rfl⟩⟩, rfl⟩
    cases h
  | true =>
    obtain ⟨⟨ok, rows, b⟩, hfetch⟩ := fetch_ends hpos hbound hsize s.tcpBuffer
    refine ⟨ok, { s with
        lookup := s.lookup.initializeTcpTable (enterRows TcpRow.session TcpRow.processEntry rows)
        tcpBuffer := b }, fun calls hcalls => ?_, ⟨fun _ => ?_, fun h => ?_⟩, rfl⟩
    · rw [actualizeTcp, if_pos rfl, initializeTcpTable, hfetch calls hcalls, Option.map_some]
    · exact refreshed_of_fetch _ _ (hfetch _ (Nat.lt_succ_self _))
    · cases h

/-- The second half of `actualize` ends, and does not touch the TCP table. -/
theorem actualizeUdp_ends {a : TableAnswers (UdpRow T)} (hpos : 0 < bound)
    (hbound : bound < 2147483648) (hsize : ∀ i, (a.calls i).size ≤ bound) (udp : Bool)
    (s : ProcessTables T) :
    ∃ ok t, (∀ calls, Nat.log 2 bound + 1 < calls → s.actualizeUdp udp a calls = some (ok, t)) ∧
      Settled UdpRow.endpoint UdpRow.processEntry a udp ok s.udpPart t.udpPart ∧
      t.tcpPart = s.tcpPart := by
  cases udp with
  | false =>
    refine ⟨true, s, fun _ _ => rfl, ⟨fun h => ?_, fun _ => ⟨rfl, rfl⟩⟩, rfl⟩
    cases h
  | true =>
    obtain ⟨⟨ok, rows, b⟩, hfetch⟩ := fetch_ends hpos hbound hsize s.udpBuffer
    refine ⟨ok, { s with
        lookup := s.lookup.initializeUdpTable (enterRows UdpRow.endpoint UdpRow.processEntry rows)
        udpBuffer := b }, fun calls hcalls => ?_, ⟨fun _ => ?_, fun h => ?_⟩, rfl⟩
    · rw [actualizeUdp, if_pos rfl, initializeUdpTable, hfetch calls hcalls, Option.map_some]
    · exact refreshed_of_fetch _ _ (hfetch _ (Nat.lt_succ_self _))
    · cases h

/-- A refresh of the TCP table that finds no more than its buffer holds needs one call. -/
theorem initializeTcpTable_of_le {a : TableAnswers (TcpRow T)} {rows : List (TcpRow T)}
    {s : ProcessTables T} (hdata : (a.calls 0).data = some rows)
    (hsize : (a.calls 0).size ≤ s.tcpBuffer.allocated) :
    ∃ ok t, s.initializeTcpTable a 1 = some (ok, t) ∧ t.tcpBuffer = s.tcpBuffer := by
  obtain ⟨ok, rows', hfetch⟩ := fetch_of_le hdata hsize
  refine ⟨ok, { s with
      lookup := s.lookup.initializeTcpTable (enterRows TcpRow.session TcpRow.processEntry rows') },
    ?_, rfl⟩
  rw [initializeTcpTable, hfetch, Option.map_some]

/-- A refresh of the UDP table that finds no more than its buffer holds needs one call. -/
theorem initializeUdpTable_of_le {a : TableAnswers (UdpRow T)} {rows : List (UdpRow T)}
    {s : ProcessTables T} (hdata : (a.calls 0).data = some rows)
    (hsize : (a.calls 0).size ≤ s.udpBuffer.allocated) :
    ∃ ok t, s.initializeUdpTable a 1 = some (ok, t) ∧ t.udpBuffer = s.udpBuffer := by
  obtain ⟨ok, rows', hfetch⟩ := fetch_of_le hdata hsize
  refine ⟨ok, { s with
      lookup := s.lookup.initializeUdpTable (enterRows UdpRow.endpoint UdpRow.processEntry rows') },
    ?_, rfl⟩
  rw [initializeUdpTable, hfetch, Option.map_some]

/-- `actualize` ends after at most one call for each binary digit of the largest table and one more,
for each table it is asked to refresh. The refreshed table holds what the last of these calls found,
whatever it held before, and the other is not touched; the buffers stay large enough for what they
were filled with, so that a refresh that finds no more is done with its first call. -/
theorem actualize_refreshes (hpos : 0 < bound) (hbound : bound < 2147483648) (tcp udp : Bool)
    (a : TableAnswers (TcpRow T)) (a' : TableAnswers (UdpRow T))
    (hsize : ∀ i, (a.calls i).size ≤ bound) (hsize' : ∀ i, (a'.calls i).size ≤ bound)
    (s : ProcessTables T) :
    ∃ retTcp retUdp t,
      (∀ calls, Nat.log 2 bound + 1 < calls →
        s.actualize tcp udp a a' calls = some (retUdp && retTcp, t)) ∧
      Settled TcpRow.session TcpRow.processEntry a tcp retTcp s.tcpPart t.tcpPart ∧
      Settled UdpRow.endpoint UdpRow.processEntry a' udp retUdp s.udpPart t.udpPart ∧
      (∀ c rows, (c.calls 0).data = some rows → (c.calls 0).size ≤ t.tcpBuffer.allocated →
        ∃ ok t', t.initializeTcpTable c 1 = some (ok, t') ∧ t'.tcpBuffer = t.tcpBuffer) ∧
      (∀ c rows, (c.calls 0).data = some rows → (c.calls 0).size ≤ t.udpBuffer.allocated →
        ∃ ok t', t.initializeUdpTable c 1 = some (ok, t') ∧ t'.udpBuffer = t.udpBuffer) := by
  -- the TCP table comes first, and the UDP table is refreshed in the state that leaves
  obtain ⟨retTcp, s', hrunTcp, hsettledTcp, hudpPart⟩ := actualizeTcp_ends hpos hbound hsize tcp s
  obtain ⟨retUdp, t, hrunUdp, hsettledUdp, htcpPart⟩ :=
    actualizeUdp_ends hpos hbound hsize' udp s'
  rw [hudpPart] at hsettledUdp
  refine ⟨retTcp, retUdp, t, fun calls hcalls => ?_, htcpPart ▸ hsettledTcp, hsettledUdp,
    fun c rows => initializeTcpTable_of_le, fun c rows => initializeUdpTable_of_le⟩
  simp only [actualize, hrunTcp calls hcalls, hrunUdp calls hcalls, Option.bind_eq_bind,
    Option.bind_some]
  rfl

/-! ## A table of one row -/

/-- The system reports one row, of 24 bytes. -/
def reportsOne (row : TcpRow .v4) : TableAnswers (TcpRow .v4) where
  calls _ := ⟨24, some [row]⟩

/-- A connection of a browser to port 443. -/
def httpsRow : TcpRow .v4 where
  localAddr := ⟨10, 0, 0, 1⟩
  remoteAddr := ⟨10, 0, 0, 2⟩
  localPort := 5000
  remotePort := 0xBB01
  owningPid := 4
  ownerModule := ⟨true, some (some (wstring "browser"), some (wstring "browser.exe"))⟩

/-- The first call has no buffer, and the second one fills the buffer with the row. -/
theorem actualize_refreshes_https : ∃ t,
    (∀ calls, 5 < calls → ProcessTables.actualize true false (reportsOne httpsRow)
      ⟨fun _ => ⟨0, none⟩, fun _ => true, none⟩ calls {} = some (true, t)) ∧
    t.lookup.tcpToApp.find httpsRow.session =
      some ⟨4, wstring "browser", wstring "browser.exe"⟩ := by
  have hpos : 0 < 24 := by decide
  obtain ⟨retTcp, retUdp, t, hrun, htcp, hudp, -⟩ := actualize_refreshes hpos (by decide) true
    false (reportsOne httpsRow) ⟨fun _ => ⟨0, none⟩, fun _ => true, none⟩
    (fun _ => Nat.le_refl _) (fun _ => Nat.zero_le _) {}
  obtain ⟨k, hlast, -, hok, htable⟩ := htcp.1 rfl
  have hfound : found (reportsOne httpsRow)
      (tcpPart ({} : ProcessTables .v4)).1 k = some [httpsRow] := by
    cases k with
    | succ k => rfl
    | zero =>
      -- a buffer of no bytes is too small
      rcases hlast.ends with hnone | hsize | hmemory
      · cases hnone
      · cases hsize
      · cases hmemory
  rw [hfound] at hok htable
  obtain rfl : retTcp = true := hok.mpr ⟨_, rfl, nofun⟩
  obtain ⟨rfl, -⟩ := hudp.2 rfl
  refine ⟨t, hrun, (htable _).trans ?_⟩
  decide

end ProcessTables

end CutieProxy
