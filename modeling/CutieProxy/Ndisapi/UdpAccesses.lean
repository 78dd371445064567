import CutieProxy.Lib.Traced
import CutieProxy.Ndisapi.UdpTranslation

/-!
# What the UDP redirection accesses

The two functions of the UDP redirection once more, with every access to `m_IBuffer` recorded. They
come to the same as the functions without the records (`clientToServer_run`, `serverToClient_run`).
The ten bytes of the SOCKS5 header are inserted without looking whether the frame has room for
them, and a datagram of the proxy is not looked at before its first ten bytes are taken for a
header: `redirectsInside_iff` and `restoresInside_iff` say for which packets that goes well. The
accesses of the driver's library are its own.
-/

namespace CutieProxy

namespace IntermediateBuffer

/-- Reads the byte at an offset. -/
def loadByte (offset : Nat) : Traced IntermediateBuffer UInt8 :=
  .read [⟨offset, 1⟩] fun p => p.mIBuffer offset

/-- Reads the 16-bit field at an offset. -/
def loadWord (offset : Nat) : Traced IntermediateBuffer UInt16 :=
  .read [⟨offset, 2⟩] fun p => p.read16 offset

/-- Reads the address at an offset. -/
def loadAddress (offset : Nat) : Traced IntermediateBuffer IpAddressV4 :=
  .read [⟨offset, 4⟩] fun p => p.readAddress offset

/-- Reads `ip_hl`, and computes the offset of the transport header. -/
def loadTransport : Traced IntermediateBuffer Nat := .read [⟨etherHeaderLength, 1⟩] transport

/-- Writes a 16-bit field. -/
def storeWord (offset : Nat) (value : UInt16) : Traced IntermediateBuffer PUnit :=
  .update [⟨offset, 2⟩] (write16 offset value)

/-- Stores bytes at an offset. -/
def store (offset : Nat) (bytes : List UInt8) : Traced IntermediateBuffer PUnit :=
  .update [⟨offset, bytes.length⟩] (write offset bytes)

/-- `memmove` inside the frame. -/
def move (dst src size : Nat) : Traced IntermediateBuffer PUnit :=
  .update [⟨src, size⟩, ⟨dst, size⟩] (memmove dst src size)

/-- Changes `m_Length`, which is not in `m_IBuffer`. -/
def setLength (f : UInt32 → UInt32) : Traced IntermediateBuffer PUnit :=
  .update [] fun p => { p with mLength := f p.mLength }

/-- Swaps `h_dest` and `h_source`, and `ip_dst` and `ip_src`. -/
def swapAddresses : Traced IntermediateBuffer PUnit :=
  .update [⟨0, 12⟩, ⟨etherHeaderLength + 12, 8⟩] fun p => p.swapEthernetAddresses.swapIpAddresses

/-- Recalculates the checksums. -/
def recalculate (api : CNdisApi) : Traced IntermediateBuffer PUnit :=
  .update [] fun p => api.recalculateIPChecksum (api.recalculateUDPChecksum p)

/-- The addresses and ports of a packet, which `print_log` is given. -/
def loadEndpoints (udpHeader : Nat) : Traced IntermediateBuffer PUnit :=
  .update [⟨etherHeaderLength + 12, 8⟩, ⟨udpHeader, 4⟩] id

end IntermediateBuffer

namespace Socks5UdpLocalRedirect

open IntermediateBuffer

/-- The part of `process_client_to_server_packet` that changes the packet. -/
def redirect (api : CNdisApi) (port : UInt16) (udpHeader : Nat) :
    Traced IntermediateBuffer PUnit := do
  let payload := udpHeader + udphdrSize
  let size ← .read [⟨etherHeaderLength, 1⟩] fun p => payloadSize p p.mLength
  let maxSize ← .read [⟨etherHeaderLength, 1⟩] fun p => payloadSize p api.maxEtherFrame
  move (payload + socks5UdpHeaderSize) payload (min size maxSize)
  setLength (· + 10)
  let ipLen ← loadWord (etherHeaderLength + 2)
  storeWord (etherHeaderLength + 2) (addToLength ipLen 10)
  let length ← loadWord (udpHeader + 4)
  storeWord (udpHeader + 4) (addToLength length 10)
  store payload [0, 0, 0, 1]
  let ipDst ← loadAddress (etherHeaderLength + 16)
  store (payload + 4) ipDst.toBytes
  let thDport ← loadWord (udpHeader + 2)
  storeWord (payload + 8) thDport
  swapAddresses
  storeWord (udpHeader + 2) port
  recalculate api
  loadEndpoints udpHeader

/-- What both functions begin with: anything but a datagram that is no fragment is refused. -/
def unfragmentedUdp (r : Socks5UdpLocalRedirect)
    (body : Traced IntermediateBuffer (Bool × Socks5UdpLocalRedirect)) :
    Traced IntermediateBuffer (Bool × Socks5UdpLocalRedirect) := do
  let hProto ← loadWord 12
  bif ntohs hProto != ethPIp then pure (false, r)
  else do
    let ipP ← loadByte (etherHeaderLength + 9)
    bif ipP != ipprotoUdp then pure (false, r)
    else do
      let ipOff ← loadWord (etherHeaderLength + 6)
      bif ntohs ipOff &&& ~~~ipDf != 0 then pure (false, r) else body

/-- `process_client_to_server_packet`. -/
def clientToServer (api : CNdisApi) (now : TimePoint) (port : UInt16)
    (r : Socks5UdpLocalRedirect) : Traced IntermediateBuffer (Bool × Socks5UdpLocalRedirect) :=
  let port := if port = 0 then r.proxyPort else port
  unfragmentedUdp r do
    let udpHeader ← loadTransport
    let thSport ← loadWord udpHeader
    match r.endpoints.find thSport with
    | none => pure (false, r)
    | some _ =>
      loadEndpoints udpHeader
      redirect api port udpHeader
      pure (true, { r with endpoints := r.endpoints.insert thSport now })

/-- The part of `process_server_to_client_packet` that changes the packet. -/
def restore (api : CNdisApi) (udpHeader : Nat) : Traced IntermediateBuffer PUnit := do
  let payload := udpHeader + udphdrSize
  swapAddresses
  let address ← loadAddress (payload + 4)
  store (etherHeaderLength + 12) address.toBytes
  let port ← loadWord (payload + 8)
  storeWord udpHeader port
  let length ← loadWord (udpHeader + 4)
  let size := ((ntohs length).toNat + 2 ^ 64 - udphdrSize) % 2 ^ 16
  move payload (payload + socks5UdpHeaderSize) ((size + 2 ^ 64 - socks5UdpHeaderSize) % 2 ^ 64)
  setLength (· - 10)
  let ipLen ← loadWord (etherHeaderLength + 2)
  storeWord (etherHeaderLength + 2) (addToLength ipLen (0 - 10))
  let length ← loadWord (udpHeader + 4)
  storeWord (udpHeader + 4) (addToLength length (0 - 10))
  recalculate api
  loadEndpoints udpHeader

/-- `process_server_to_client_packet`. -/
def serverToClient (api : CNdisApi) (now : TimePoint) (r : Socks5UdpLocalRedirect) :
    Traced IntermediateBuffer (Bool × Socks5UdpLocalRedirect) :=
  unfragmentedUdp r do
    let udpHeader ← loadTransport
    let thDport ← loadWord (udpHeader + 2)
    match r.endpoints.find thDport with
    | none => pure (false, r)
    | some _ =>
      loadEndpoints udpHeader
      restore api udpHeader
      pure (true, { r with endpoints := r.endpoints.insert thDport now })

variable {api : CNdisApi} {now : TimePoint} {port : UInt16} {p q : IntermediateBuffer}
  {r : Socks5UdpLocalRedirect} {n : Nat}

/-- What a run comes to, without its accesses. -/
def result (o : Outcome IntermediateBuffer (Bool × Socks5UdpLocalRedirect)) :
    Bool × IntermediateBuffer × Socks5UdpLocalRedirect := (o.value.1, o.state, o.value.2)

/-! ## The records change nothing -/

variable {body : Traced IntermediateBuffer (Bool × Socks5UdpLocalRedirect)}

/-- The test that refuses a packet at once. -/
theorem refused_cases (h : ¬ (p.IsIpv4 ipprotoUdp ∧ p.isFragmented = false)) :
    (ntohs (p.read16 12) != ethPIp) = true ∨
    ((ntohs (p.read16 12) != ethPIp) = false ∧
      (p.mIBuffer (etherHeaderLength + 9) != ipprotoUdp) = true) ∨
    ((ntohs (p.read16 12) != ethPIp) = false ∧
      (p.mIBuffer (etherHeaderLength + 9) != ipprotoUdp) = false ∧
      (ntohs (p.read16 (etherHeaderLength + 6)) &&& ~~~ipDf != 0) = true) := by
  cases heth : ntohs (p.read16 12) != ethPIp with
  | true => exact .inl rfl
  | false =>
    cases hproto : p.mIBuffer (etherHeaderLength + 9) != ipprotoUdp with
    | true => exact .inr (.inl ⟨rfl, rfl⟩)
    | false =>
      have hip : p.IsIpv4 ipprotoUdp :=
        ⟨bne_eq_false_iff_eq.mp heth, bne_eq_false_iff_eq.mp hproto⟩
      exact .inr (.inr ⟨rfl, rfl, (Bool.not_eq_false _).mp fun hfrag => h ⟨hip, hfrag⟩⟩)

/-- A packet that is refused at once. -/
theorem unfragmentedUdp_refused (h : ¬ (p.IsIpv4 ipprotoUdp ∧ p.isFragmented = false)) :
    result ((unfragmentedUdp r body).run p) = (false, p, r) := by
  obtain heth | ⟨heth, hproto⟩ | ⟨heth, hproto, hfrag⟩ := refused_cases h
  · simp [unfragmentedUdp, result, loadWord, heth]
  · simp [unfragmentedUdp, result, loadWord, loadByte, heth, hproto]
  · simp [unfragmentedUdp, result, loadWord, loadByte, heth, hproto, hfrag]

/-- The bytes read of a packet that is refused at once. -/
theorem unfragmentedUdp_refused_within (h : ¬ (p.IsIpv4 ipprotoUdp ∧ p.isFragmented = false))
    (hn : 24 ≤ n) : (unfragmentedUdp r body).Within n p := by
  have hoff : etherHeaderLength = 14 := rfl
  obtain heth | ⟨heth, hproto⟩ | ⟨heth, hproto, hfrag⟩ := refused_cases h
  · simp [unfragmentedUdp, loadWord, heth, Span.Within]
    omega
  · simp [unfragmentedUdp, loadWord, loadByte, heth, hproto, Span.Within]
    omega
  · simp [unfragmentedUdp, loadWord, loadByte, heth, hproto, hfrag, Span.Within]
    omega

/-- The tests a packet passes that is not refused. -/
theorem accepted_tests (hip : p.IsIpv4 ipprotoUdp) (hfrag : p.isFragmented = false) :
    (ntohs (p.read16 12) != ethPIp) = false ∧
      (p.mIBuffer (etherHeaderLength + 9) != ipprotoUdp) = false ∧
      (ntohs (p.read16 (etherHeaderLength + 6)) &&& ~~~ipDf != 0) = false :=
  ⟨bne_eq_false_iff_eq.mpr hip.1, bne_eq_false_iff_eq.mpr hip.2, hfrag⟩

/-- A packet that is not refused at once. -/
theorem unfragmentedUdp_accepted (hip : p.IsIpv4 ipprotoUdp) (hfrag : p.isFragmented = false) :
    result ((unfragmentedUdp r body).run p) = result (body.run p) := by
  obtain ⟨heth, hproto, hflags⟩ := accepted_tests hip hfrag
  simp [unfragmentedUdp, result, loadWord, loadByte, heth, hproto, hflags]

/-- The bytes read of a packet that is not refused at once. -/
theorem unfragmentedUdp_accepted_within (hip : p.IsIpv4 ipprotoUdp)
    (hfrag : p.isFragmented = false) :
    (unfragmentedUdp r body).Within n p ↔ 24 ≤ n ∧ body.Within n p := by
  have hoff : etherHeaderLength = 14 := rfl
  obtain ⟨heth, hproto, hflags⟩ := accepted_tests hip hfrag
  simp only [unfragmentedUdp, loadWord, loadByte, Traced.within_bind, Traced.within_read,
    Traced.run_read, heth, hproto, hflags, cond_false, List.mem_singleton,
    forall_eq, Span.Within]
  constructor
  · rintro ⟨h₁, h₂, h₃, hbody⟩
    exact ⟨by omega, hbody⟩
  · rintro ⟨hle, hbody⟩
    exact ⟨by omega, by omega, by omega, hbody⟩

/-- The bytes the redirection of a client's datagram accesses. -/
theorem redirect_within (hn : 34 ≤ n) : (redirect api port p.transport).Within n p ↔
    p.transport + 18 + min (payloadSize p p.mLength) (payloadSize p api.maxEtherFrame) ≤ n := by
  have hoff : etherHeaderLength = 14 := rfl
  have hudphdr : udphdrSize = 8 := rfl
  have hsocks : socks5UdpHeaderSize = 10 := rfl
  have htransport : p.transport = 14 + 4 * p.ipHl := rfl
  have hbytes : ∀ a : IpAddressV4, a.toBytes.length = 4 := fun _ => rfl
  simp only [redirect, loadWord, loadAddress, storeWord, store, move, setLength, swapAddresses,
    IntermediateBuffer.recalculate, loadEndpoints, Traced.within_bind, Traced.within_read,
    Traced.within_update, Traced.run_read, Traced.run_update, List.forall_mem_cons,
    List.not_mem_nil, false_implies, implies_true, and_true, true_and, Span.Within, hbytes,
    List.length_cons, List.length_nil]
  omega

/-- The length the datagram of a proxy has when its size is computed. -/
theorem restore_udpLength (hheader : 5 ≤ p.ipHl) {address : IpAddressV4} {sport : UInt16} :
    (write16 p.transport sport (write (etherHeaderLength + 12) address.toBytes
      p.swapEthernetAddresses.swapIpAddresses)).read16 (p.transport + 4) =
      p.read16 (p.transport + 4) := by
  have htransport : p.transport = 14 + 4 * p.ipHl := rfl
  have hbyte : ∀ i, p.transport + 4 ≤ i → (write16 p.transport sport (write (etherHeaderLength + 12)
      address.toBytes p.swapEthernetAddresses.swapIpAddresses)).mIBuffer i = p.mIBuffer i := by
    intro i hi
    rw [write16_apart (by omega), write_apart (.inr (show 26 + 4 ≤ i by omega)),
      swapIpAddresses_apart (by omega), swapEthernetAddresses_apart (by omega)]
  exact read16_congr (hbyte _ (by omega)) (hbyte _ (by omega))

/-- The bytes the translation of a proxy's datagram accesses: as many as its length field says,
which is to be at least the size of the headers. -/
theorem restore_within (hheader : 5 ≤ p.ipHl) (hn : n < 2 ^ 16) :
    (restore api p.transport).Within n p ↔ 18 ≤ p.udpLength ∧ p.transport + p.udpLength ≤ n := by
  have hoff : etherHeaderLength = 14 := rfl
  have hudphdr : udphdrSize = 8 := rfl
  have hsocks : socks5UdpHeaderSize = 10 := rfl
  have htransport : p.transport = 14 + 4 * p.ipHl := rfl
  have hlt : p.udpLength < 2 ^ 16 := UInt16.toNat_lt _
  have hbytes : ∀ a : IpAddressV4, a.toBytes.length = 4 := fun _ => rfl
  have hlength : ∀ field, field = p.read16 (p.transport + 4) → (ntohs field).toNat = p.udpLength := by
    rintro field rfl
    rfl
  simp only [restore, loadWord, loadAddress, storeWord, store, move, setLength, swapAddresses,
    IntermediateBuffer.recalculate, loadEndpoints, Traced.within_bind, Traced.within_read,
    Traced.within_update, Traced.run_read, Traced.run_update, List.forall_mem_cons,
    List.not_mem_nil, false_implies, implies_true, and_true, true_and, Span.Within, hbytes,
    restore_udpLength hheader]
  rw [hlength _ rfl]
  omega

/-- The records of the way to the proxy change nothing. -/
theorem clientToServer_run : result ((clientToServer api now port r).run p) =
    processClientToServerPacket api now p port r := by
  cases hfrag : p.isFragmented with
  | true =>
    rw [processClientToServerPacket_fragment hfrag]
    exact unfragmentedUdp_refused (by simp [hfrag])
  | false =>
    by_cases hip : p.IsIpv4 ipprotoUdp
    · refine (unfragmentedUdp_accepted hip hfrag).trans ?_
      cases hfind : r.endpoints.find p.thSport with
      | none =>
        rw [processClientToServerPacket_unknown hfind]
        rw [thSport] at hfind
        simp [result, loadTransport, loadWord, hfind]
      | some timestamp =>
        rw [processClientToServerPacket_known hip hfrag hfind]
        rw [thSport] at hfind
        simp only [loadTransport, loadWord, hfind, Traced.run_bind, Traced.run_read]
        rfl
    · rw [processClientToServerPacket_other hip]
      exact unfragmentedUdp_refused (by simp [hip])

/-- The records of the way to the client change nothing. -/
theorem serverToClient_run : result ((serverToClient api now r).run p) =
    processServerToClientPacket api now p r := by
  cases hfrag : p.isFragmented with
  | true =>
    rw [processServerToClientPacket_fragment hfrag]
    exact unfragmentedUdp_refused (by simp [hfrag])
  | false =>
    by_cases hip : p.IsIpv4 ipprotoUdp
    · refine (unfragmentedUdp_accepted hip hfrag).trans ?_
      cases hfind : r.endpoints.find p.thDport with
      | none =>
        rw [processServerToClientPacket_unknown hfind]
        rw [thDport] at hfind
        simp [result, loadTransport, loadWord, hfind]
      | some timestamp =>
        rw [processServerToClientPacket_known hip hfrag hfind]
        rw [thDport] at hfind
        simp only [loadTransport, loadWord, hfind, Traced.run_bind, Traced.run_read]
        rfl
    · rw [processServerToClientPacket_other hip]
      exact unfragmentedUdp_refused (by simp [hip])

/-! ## To the local proxy -/

/-- A client's datagram is rewritten inside `m_IBuffer` and fits it, or refused and left alone. -/
def RedirectsInside (api : CNdisApi) (now : TimePoint) (port : UInt16) (r : Socks5UdpLocalRedirect)
    (p : IntermediateBuffer) : Prop :=
  let (accepted, q, _) := processClientToServerPacket api now p port r
  ((clientToServer api now port r).Within api.maxEtherFrame.toNat p ∧
    q.mLength.toNat ≤ api.maxEtherFrame.toNat) ∨ (accepted = false ∧ q = p)

/-- The accesses for a datagram that is rewritten. -/
theorem clientToServer_within (hip : p.IsIpv4 ipprotoUdp) (hfrag : p.isFragmented = false)
    {timestamp : TimePoint} (hfind : r.endpoints.find p.thSport = some timestamp) (hn : 34 ≤ n) :
    (clientToServer api now port r).Within n p ↔
      p.transport + 18 + min (payloadSize p p.mLength) (payloadSize p api.maxEtherFrame) ≤ n := by
  refine (unfragmentedUdp_accepted_within hip hfrag).trans ?_
  rw [thSport] at hfind
  have hoff : etherHeaderLength = 14 := rfl
  simp only [loadTransport, loadWord, loadEndpoints, Traced.within_bind, Traced.within_read,
    Traced.run_read, Traced.within_update, Traced.run_update, Traced.within_pure, hfind,
    List.forall_mem_cons, List.not_mem_nil, false_implies, implies_true, and_true, Span.Within, id,
    redirect_within hn]
  omega

/-- A client's datagram, whatever its header length, is handled inside `m_IBuffer` or refused if and
only if it is refused, or the frame holds its headers and has room for ten bytes more. -/
theorem redirectsInside_iff (hapi : api.Recalculates) (hlow : 82 ≤ api.maxEtherFrame.toNat)
    (hmax : api.maxEtherFrame.toNat < 2 ^ 16) (hip : p.IsIpv4 ipprotoUdp)
    (hlen : p.mLength.toNat ≤ api.maxEtherFrame.toNat) :
    RedirectsInside api now port r p ↔
      p.isFragmented = true ∨ r.endpoints.find p.thSport = none ∨
        (p.transport + udphdrSize ≤ p.mLength.toNat ∧
          p.mLength.toNat + socks5UdpHeaderSize ≤ api.maxEtherFrame.toNat) := by
  unfold RedirectsInside
  cases hfrag : p.isFragmented with
  | true =>
    rw [processClientToServerPacket_fragment hfrag]
    simp
  | false =>
    cases hfind : r.endpoints.find p.thSport with
    | none =>
      rw [processClientToServerPacket_unknown hfind]
      simp
    | some timestamp =>
      have hlength : ∀ port, (redirectPacket api port p).mLength = p.mLength + 10 := by
        intro port
        show (api.recalculateIPChecksum (api.recalculateUDPChecksum _)).mLength = _
        rw [hapi.ip.length, hapi.udp.length]
        rfl
      have hsum : (p.mLength + 10).toNat = p.mLength.toNat + 10 := by
        rw [UInt32.toNat_add]
        exact Nat.mod_eq_of_lt (show p.mLength.toNat + 10 < _ by omega)
      have hudphdr : udphdrSize = 8 := rfl
      have hsocks : socks5UdpHeaderSize = 10 := rfl
      have hoff : etherHeaderLength = 14 := rfl
      have htransport : p.transport = 14 + 4 * p.ipHl := rfl
      rw [processClientToServerPacket_known hip hfrag hfind]
      dsimp only
      rw [clientToServer_within hip hfrag hfind (by omega), hlength, hsum, payloadSize, payloadSize]
      simp only [Bool.true_eq_false, false_and, or_false, reduceCtorEq, false_or]
      omega

open Dns in
theorem redirectsInside_iff_dns : RedirectsInside .internet 0 0 entered query := by
  have hip : query.IsIpv4 ipprotoUdp := (udpFrame_isUdp ..).ip
  have hlen : query.mLength.toNat ≤ CNdisApi.internet.maxEtherFrame.toNat := by decide
  have hroom : query.transport + udphdrSize ≤ query.mLength.toNat ∧
      query.mLength.toNat + socks5UdpHeaderSize ≤ CNdisApi.internet.maxEtherFrame.toNat := by decide
  exact (redirectsInside_iff CNdisApi.internet_recalculates (by decide) (by decide) hip hlen).mpr
    (.inr (.inr hroom))

namespace Dns

/-- A query of the size of the largest frame. -/
def fullSize : IntermediateBuffer :=
  udpFrame ⟨10, 0, 0, 1⟩ ⟨10, 0, 0, 2⟩ 5000 53 ipDf (List.replicate 1472 0)

end Dns

open Dns in
/-- The frame of 1514 bytes leaves with 1524. -/
theorem full_size_frame_overflows :
    fullSize.mLength = CNdisApi.internet.maxEtherFrame ∧
      (processClientToServerPacket .internet 0 fullSize 0 entered).2.1.mLength = 1524 ∧
      ¬ RedirectsInside .internet 0 0 entered fullSize := by
  have hlength : fullSize.mLength = 1514 := by
    rw [fullSize, udpFrame_mLength, List.length_replicate]
    rfl
  have hfrag : fullSize.isFragmented = false := (udpFrame_isFragmented ..).trans (by decide)
  have hsport : fullSize.thSport = htons 5000 := udpFrame_thSport ..
  have hfind : entered.endpoints.find fullSize.thSport = some 0 := by
    rw [hsport]
    decide
  have hprocess : processClientToServerPacket .internet 0 fullSize 0 entered =
      (true, redirectPacket .internet entered.proxyPort fullSize,
        { entered with endpoints := entered.endpoints.insert fullSize.thSport 0 }) :=
    processClientToServerPacket_known (udpFrame_isUdp ..).ip hfrag hfind
  have hsent : (redirectPacket .internet entered.proxyPort fullSize).mLength = 1524 := by
    show fullSize.mLength + 10 = 1524
    rw [hlength]
    rfl
  refine ⟨hlength, ?_, ?_⟩
  · rw [hprocess]
    exact hsent
  · unfold RedirectsInside
    rw [hprocess]
    rintro (⟨-, hfits⟩ | ⟨hrefused, -⟩)
    · rw [hsent] at hfits
      exact absurd hfits (by decide)
    · cases hrefused

/-! ## To the client -/

/-- A datagram of the proxy is handled inside `m_IBuffer`, and refused and left alone, or its
payload is a header followed by what the result holds. -/
def RestoresInside (api : CNdisApi) (now : TimePoint) (r : Socks5UdpLocalRedirect)
    (p : IntermediateBuffer) : Prop :=
  let (accepted, q, _) := processServerToClientPacket api now p r
  (serverToClient api now r).Within api.maxEtherFrame.toNat p ∧
    ((accepted = false ∧ q = p) ∨
      (accepted = true ∧ ∃ address port rest, p.payload = socks5UdpHeader address port ++ rest ∧
        Stripped address port rest p q))

/-- The accesses for a datagram that is translated back. -/
theorem serverToClient_within (hudp : p.IsUdp) (hfrag : p.isFragmented = false)
    {timestamp : TimePoint} (hfind : r.endpoints.find p.thDport = some timestamp)
    (hlow : 34 ≤ n) (hmax : n < 2 ^ 16) :
    (serverToClient api now r).Within n p ↔ 18 ≤ p.udpLength ∧ p.transport + p.udpLength ≤ n := by
  refine (unfragmentedUdp_accepted_within hudp.ip hfrag).trans ?_
  rw [thDport] at hfind
  have hoff : etherHeaderLength = 14 := rfl
  simp only [loadTransport, loadWord, loadEndpoints, Traced.within_bind, Traced.within_read,
    Traced.run_read, Traced.within_update, Traced.run_update, Traced.within_pure, hfind,
    List.forall_mem_cons, List.not_mem_nil, false_implies, implies_true, and_true, Span.Within, id,
    restore_within hudp.header hmax]
  omega

/-- The accesses for a datagram that is refused. -/
theorem serverToClient_within_refused (h : p.isFragmented = true ∨ r.endpoints.find p.thDport = none)
    (hlow : 82 ≤ n) : (serverToClient api now r).Within n p := by
  by_cases haccepted : p.IsIpv4 ipprotoUdp ∧ p.isFragmented = false
  · refine (unfragmentedUdp_accepted_within haccepted.1 haccepted.2).mpr ⟨by omega, ?_⟩
    have hfind : r.endpoints.find (p.read16 (p.transport + 2)) = none := by
      rcases h with hfrag | hfind
      · rw [haccepted.2] at hfrag
        cases hfrag
      · exact hfind
    have hoff : etherHeaderLength = 14 := rfl
    have htransport : p.transport = 14 + 4 * p.ipHl := rfl
    have hipHl : p.ipHl < 16 := Nat.mod_lt _ (by decide)
    simp only [loadTransport, loadWord, Traced.within_bind, Traced.within_read, Traced.run_read,
      Traced.within_pure, hfind, List.forall_mem_cons, List.not_mem_nil, false_implies,
      implies_true, and_true, Span.Within]
    omega
  · exact unfragmentedUdp_refused_within haccepted (by omega)

/-- A payload starts with a header that names an IPv4 endpoint if and only if it has ten bytes, and
the first four of them are 0, 0, 0 and 1. -/
theorem payload_eq_header_iff :
    (∃ address port rest, p.payload = socks5UdpHeader address port ++ rest) ↔
      18 ≤ p.udpLength ∧ p.transport + 18 ≤ p.mLength.toNat ∧
        p.slice p.udpPayload (p.udpPayload + 4) = [0, 0, 0, 1] := by
  have hstart : p.udpPayload = p.transport + 8 := rfl
  constructor
  · rintro ⟨address, port, rest, h⟩
    have hlen := congrArg List.length h
    rw [List.length_append, payload, length_slice] at hlen
    have hhead : (socks5UdpHeader address port).length = 10 := rfl
    refine ⟨by omega, by omega, ?_⟩
    rw [payload, slice_append (p.udpPayload + 4) (by omega) (by omega), socks5UdpHeader,
      List.append_assoc, List.append_assoc] at h
    exact (List.append_inj h (length_slice.trans (Nat.add_sub_cancel_left ..))).1
  · rintro ⟨hudp, hframe, hfour⟩
    refine ⟨p.readAddress (p.udpPayload + 4), p.read16 (p.udpPayload + 8),
      p.slice (p.udpPayload + 10) (min (p.transport + p.udpLength) p.mLength.toNat), ?_⟩
    rw [payload, slice_append (p.udpPayload + 10) (by omega) (by omega),
      slice_append (p.udpPayload + 8) (by omega) (by omega),
      slice_append (p.udpPayload + 4) (by omega) (by omega), hfour, socks5UdpHeader,
      ← slice_readAddress, ← slice_read16]

/-- A datagram of the proxy is handled inside `m_IBuffer`, and refused or translated as it should
be, if and only if it is refused, or it has ten bytes of payload that start as a header does, an IP
length that counts them, and a UDP length that does not reach beyond `m_IBuffer`. -/
theorem restoresInside_iff (hapi : api.Recalculates) (hlow : 82 ≤ api.maxEtherFrame.toNat)
    (hmax : api.maxEtherFrame.toNat < 2 ^ 16) (hudp : p.IsUdp) :
    RestoresInside api now r p ↔
      (p.isFragmented = true ∨ r.endpoints.find p.thDport = none) ∨
        ((18 ≤ p.udpLength ∧ p.transport + 18 ≤ p.mLength.toNat ∧
            p.slice p.udpPayload (p.udpPayload + 4) = [0, 0, 0, 1]) ∧
          socks5UdpHeaderSize ≤ p.totalLength ∧
          p.transport + p.udpLength ≤ api.maxEtherFrame.toNat) := by
  unfold RestoresInside
  by_cases hrefused : p.isFragmented = true ∨ r.endpoints.find p.thDport = none
  · have hprocess : processServerToClientPacket api now p r = (false, p, r) := by
      rcases hrefused with hfrag | hfind
      · exact processServerToClientPacket_fragment hfrag
      · exact processServerToClientPacket_unknown hfind
    rw [hprocess]
    exact ⟨fun _ => .inl hrefused,
      fun _ => ⟨serverToClient_within_refused hrefused hlow, .inl ⟨rfl, rfl⟩⟩⟩
  · obtain ⟨hfrag, hknown⟩ := not_or.mp hrefused
    rw [Bool.not_eq_true] at hfrag
    obtain ⟨timestamp, hfind⟩ := Option.ne_none_iff_exists'.mp hknown
    rw [processServerToClientPacket_known hudp.ip hfrag hfind]
    dsimp only
    rw [serverToClient_within hudp hfrag hfind (by omega) hmax]
    constructor
    · rintro ⟨⟨-, hinside⟩, ⟨hfalse, -⟩ | ⟨-, address, port, rest, hpayload, hstripped⟩⟩
      · cases hfalse
      · refine .inr ⟨payload_eq_header_iff.mp ⟨address, port, rest, hpayload⟩, ?_, hinside⟩
        exact hstripped.totalLength ▸ Nat.le_add_left ..
    · rintro (hcontra | ⟨hheader, htotal, hinside⟩)
      · exact absurd hcontra hrefused
      · obtain ⟨address, port, rest, hpayload⟩ := payload_eq_header_iff.mpr hheader
        exact ⟨⟨hheader.1, hinside⟩, .inr ⟨rfl, address, port, rest, hpayload,
          restorePacket_stripped hapi hudp.header htotal hpayload⟩⟩

open Dns in
theorem restoresInside_iff_dns : RestoresInside .internet 0 entered echo := by
  have hheader : 18 ≤ echo.udpLength ∧ echo.transport + 18 ≤ echo.mLength.toNat ∧
      echo.slice echo.udpPayload (echo.udpPayload + 4) = [0, 0, 0, 1] := by decide
  have hfits : socks5UdpHeaderSize ≤ echo.totalLength ∧
      echo.transport + echo.udpLength ≤ CNdisApi.internet.maxEtherFrame.toNat := by decide
  have hudp : echo.IsUdp := udpFrame_isUdp ..
  exact (restoresInside_iff CNdisApi.internet_recalculates (by decide) (by decide) hudp).mpr
    (.inr ⟨hheader, hfits⟩)

namespace Dns

/-- A datagram of the proxy without payload. -/
def empty : IntermediateBuffer := udpFrame ⟨10, 0, 0, 1⟩ ⟨10, 0, 0, 2⟩ 1080 5000 0 []

end Dns

open Dns in
/-- The empty datagram is not refused, and its move reaches far beyond the frame. -/
theorem empty_datagram_overruns :
    (processServerToClientPacket .internet 0 empty entered).1 = true ∧
      ¬ (serverToClient .internet 0 entered).Within CNdisApi.internet.maxEtherFrame.toNat empty ∧
      ¬ RestoresInside .internet 0 entered empty := by
  have hfrag : empty.isFragmented = false := by decide
  have hfind : entered.endpoints.find empty.thDport = some 0 := by decide
  have hudp : empty.IsUdp := udpFrame_isUdp ..
  have hoverrun : ¬ (serverToClient .internet 0 entered).Within
      CNdisApi.internet.maxEtherFrame.toNat empty := by
    rw [serverToClient_within hudp hfrag hfind (by decide) (by decide)]
    decide
  refine ⟨?_, hoverrun, fun h => hoverrun h.1⟩
  rw [processServerToClientPacket_known hudp.ip hfrag hfind]

end Socks5UdpLocalRedirect

end CutieProxy
