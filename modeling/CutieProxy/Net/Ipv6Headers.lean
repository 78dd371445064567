import CutieProxy.Lib.Bits
import CutieProxy.Lib.Traced
import CutieProxy.Net.Inet

/-!
# The headers of an IPv6 packet

`find_transport_header` walks along the extension headers of a packet, whose memory starts at the
IPv6 header. `lastHeader` is where the chain of headers that are skipped ends. From it follows what
the function returns (`findTransportHeader_value`): a header has to have four of its bytes in the
packet, which is too much for a short payload and too little for a fragment header, and of a
fragment offset only the six high bits are looked at. `findsTransport_iff` says for which packets
this is right.
-/

namespace CutieProxy

/-- The memory of a packet, from its IPv6 header on. -/
abbrev PacketMemory := Nat → UInt8

namespace Ipv6Helper

/-! ## The source -/

/-- `IPPROTO_HOPOPTS`. -/
def ipprotoHopopts : UInt8 := 0

/-- `IPPROTO_ROUTING`. -/
def ipprotoRouting : UInt8 := 43

/-- `IPPROTO_FRAGMENT`. -/
def ipprotoFragment : UInt8 := 44

/-- `IPPROTO_DSTOPTS`. -/
def ipprotoDstopts : UInt8 := 60

/-- The headers that are skipped. -/
def IsSkipped (proto : UInt8) : Prop :=
  proto = ipprotoHopopts ∨ proto = ipprotoRouting ∨ proto = ipprotoDstopts

instance (proto : UInt8) : Decidable (IsSkipped proto) := inferInstanceAs (Decidable (_ ∨ _))

/-- Reads the byte at an offset. -/
def byteAt (offset : Nat) : Traced PacketMemory UInt8 := .read [⟨offset, 1⟩] fun m => m offset

/-- Reads the word of the machine at an offset. -/
def wordAt (offset : Nat) : Traced PacketMemory UInt16 :=
  .read [⟨offset, 2⟩] fun m => word16 (m offset) (m (offset + 1))

/-- The loop of `find_transport_header`: the offset of the transport header, if there is one, and
the protocol. Every iteration that goes on is at least eight bytes further. -/
def findFrom (packetSize nextHeader : Nat) (nextProto : UInt8) :
    Traced PacketMemory (Option Nat × UInt8) :=
  if packetSize < nextHeader + 4 then pure (none, nextProto)
  else if nextProto = ipprotoFragment then do
    let offlg ← wordAt (nextHeader + 2)
    let next ← byteAt nextHeader
    bif offlg &&& 0xFC != 0 then pure (none, next) else pure (some (nextHeader + 8), next)
  else if IsSkipped nextProto then do
    let next ← byteAt nextHeader
    let len ← byteAt (nextHeader + 1)
    findFrom packetSize (nextHeader + 8 + len.toNat * 8) next
  else pure (some nextHeader, nextProto)
termination_by packetSize - nextHeader

/-- `find_transport_header`. -/
def findTransportHeader (packetSize : UInt32) : Traced PacketMemory (Option Nat × UInt8) := do
  let version ← byteAt 0
  bif version.toNat / 16 != 6 then pure (none, 0)
  else do
    let next ← byteAt 6
    findFrom packetSize.toNat 40 next

/-! ## The chain of headers -/

/-- The version of the packet is 6. -/
def IsIpv6 (m : PacketMemory) : Prop := (m 0).toNat / 16 = 6

/-- The fragment offset in the fragment header at an offset. -/
def fragmentOffset (m : PacketMemory) (offset : Nat) : Nat :=
  (256 * (m (offset + 2)).toNat + (m (offset + 3)).toNat) / 8

/-- Where the chain of headers that are skipped ends, from a header on, and the protocol named
there: a header that is not skipped, or one whose length is not in the packet. -/
def lastFrom (m : PacketMemory) (size offset : Nat) (proto : UInt8) : Nat × UInt8 :=
  if IsSkipped proto ∧ offset + 2 ≤ size then
    lastFrom m size (offset + 8 + (m (offset + 1)).toNat * 8) (m offset)
  else (offset, proto)
termination_by size - offset

/-- Where the chain of the packet ends. -/
def lastHeader (m : PacketMemory) (size : Nat) : Nat × UInt8 := lastFrom m size 40 (m 6)

/-- The first byte after the extension headers, and the protocol named by the last of them. -/
def afterHeaders (m : PacketMemory) (size : Nat) : Nat × UInt8 :=
  let (offset, proto) := lastHeader m size
  if proto = ipprotoFragment then (offset + 8, m offset) else (offset, proto)

/-- The packet is a fragment other than the first. -/
def IsLaterFragment (m : PacketMemory) (size : Nat) : Prop :=
  (lastHeader m size).2 = ipprotoFragment ∧ fragmentOffset m (lastHeader m size).1 ≠ 0

/-- The chain leaves the packet: an extension header, or the first byte after them, is not in it. -/
def LeavesPacket (m : PacketMemory) (size : Nat) : Prop :=
  IsSkipped (lastHeader m size).2 ∨ size ≤ (afterHeaders m size).1

/-- The function reads inside of the packet, finds no transport header in a later fragment nor in a
packet that its chain leaves, and finds that of any other. -/
structure FindsTransport (packetSize : UInt32) (m : PacketMemory) : Prop where
  inside : (findTransportHeader packetSize).Within packetSize.toNat m
  later : IsIpv6 m → IsLaterFragment m packetSize.toNat →
    ((findTransportHeader packetSize).run m).value.1 = none
  leaves : IsIpv6 m → LeavesPacket m packetSize.toNat →
    ((findTransportHeader packetSize).run m).value.1 = none
  otherwise : IsIpv6 m → ¬ IsLaterFragment m packetSize.toNat →
    ¬ LeavesPacket m packetSize.toNat → ((findTransportHeader packetSize).run m).value =
        (some (afterHeaders m packetSize.toNat).1, (afterHeaders m packetSize.toNat).2) ∧
      (afterHeaders m packetSize.toNat).1 < packetSize.toNat

/-- What the function relies on: the fields it reads first are in the packet, a fragment header that
is looked at for its first four bytes is that of a first fragment and is followed by something, or
is seen not to be one, and a payload of one to three bytes does not occur. -/
structure HeadersFit (packetSize : UInt32) (m : PacketMemory) : Prop where
  first : 1 ≤ packetSize.toNat ∧ (IsIpv6 m → 7 ≤ packetSize.toNat)
  fragment : IsIpv6 m → (lastHeader m packetSize.toNat).2 = ipprotoFragment →
    (lastHeader m packetSize.toNat).1 + 4 ≤ packetSize.toNat →
      (m ((lastHeader m packetSize.toNat).1 + 2)).toNat < 4 →
        fragmentOffset m (lastHeader m packetSize.toNat).1 = 0 ∧
          (lastHeader m packetSize.toNat).1 + 8 < packetSize.toNat
  payload : IsIpv6 m → ¬ IsSkipped (lastHeader m packetSize.toNat).2 →
    (lastHeader m packetSize.toNat).2 ≠ ipprotoFragment →
      (lastHeader m packetSize.toNat).1 < packetSize.toNat →
        (lastHeader m packetSize.toNat).1 + 4 ≤ packetSize.toNat

/-! ## The walk -/

variable {m : PacketMemory} {packetSize offset : Nat} {proto : UInt8}

/-- The mask `0xFC` sees the six high bits of the fragment offset only. -/
theorem masked_iff (lo hi : UInt8) : (word16 lo hi &&& 0xFC != 0) = true ↔ 4 ≤ lo.toNat := by
  have hlo := lo.toNat_lt
  have hand : (word16 lo hi &&& 0xFC).toNat = (word16 lo hi).toNat / 4 % 64 * 4 := by
    rw [UInt16.toNat_and]
    exact Bits.and_mask _ 6 2
  rw [bne_iff_ne, ne_eq, ← UInt16.toNat_inj, hand, toNat_word16, UInt16.toNat_zero]
  omega

theorem findFrom_outside (h : packetSize < offset + 4) :
    (findFrom packetSize offset proto).run m = ⟨(none, proto), m, []⟩ := by
  rw [findFrom, if_pos h]
  rfl

theorem findFrom_fragment (h : offset + 4 ≤ packetSize) :
    (findFrom packetSize offset ipprotoFragment).run m =
      ⟨(if (m (offset + 2)).toNat < 4 then some (offset + 8) else none, m offset), m,
        [⟨offset + 2, 2⟩, ⟨offset, 1⟩]⟩ := by
  have hmask := masked_iff (m (offset + 2)) (m (offset + 2 + 1))
  rw [findFrom, if_neg (Nat.not_lt.mpr h), if_pos rfl]
  simp only [Traced.run_bind, wordAt, byteAt, Traced.run_read, Traced.run_cond]
  split
  · next hlt =>
    rw [Bool.eq_false_iff.mpr fun hc => absurd (hmask.mp hc) (Nat.not_le.mpr hlt)]
    rfl
  · next hge =>
    rw [hmask.mpr (Nat.not_lt.mp hge)]
    rfl

theorem findFrom_skip (h : offset + 4 ≤ packetSize) (hskip : IsSkipped proto) :
    (findFrom packetSize offset proto).run m =
      let rest := (findFrom packetSize (offset + 8 + (m (offset + 1)).toNat * 8) (m offset)).run m
      ⟨rest.value, rest.state, ⟨offset, 1⟩ :: ⟨offset + 1, 1⟩ :: rest.spans⟩ := by
  have hfragment : proto ≠ ipprotoFragment := by
    rintro rfl
    revert hskip
    decide
  rw [findFrom, if_neg (Nat.not_lt.mpr h), if_neg hfragment, if_pos hskip]
  rfl

theorem findFrom_last (h : offset + 4 ≤ packetSize) (hfragment : proto ≠ ipprotoFragment)
    (hskip : ¬ IsSkipped proto) :
    (findFrom packetSize offset proto).run m = ⟨(some offset, proto), m, []⟩ := by
  rw [findFrom, if_neg (Nat.not_lt.mpr h), if_neg hfragment, if_neg hskip]
  rfl

/-- All reads of the loop are in the packet. -/
theorem findFrom_within (m : PacketMemory) (packetSize offset : Nat) (proto : UInt8) :
    (findFrom packetSize offset proto).Within packetSize m := by
  induction offset, proto using findFrom.induct packetSize with
  | case1 offset proto h =>
    rw [Traced.Within, findFrom_outside h]
    exact fun a ha => absurd ha List.not_mem_nil
  | case2 offset h =>
    rw [Traced.Within, findFrom_fragment (Nat.not_lt.mp h)]
    intro a ha
    rcases List.mem_cons.mp ha with rfl | ha
    · exact Span.within_of_le (by omega)
    · rw [List.mem_singleton.mp ha]
      exact Span.within_of_le (by omega)
  | case3 offset proto h _ hskip ih =>
    rw [Traced.Within, findFrom_skip (Nat.not_lt.mp h) hskip]
    intro a ha
    rcases List.mem_cons.mp ha with rfl | ha
    · exact Span.within_of_le (by omega)
    rcases List.mem_cons.mp ha with rfl | ha
    · exact Span.within_of_le (by omega)
    · exact ih _ _ a ha
  | case4 offset proto h hfragment hskip =>
    rw [Traced.Within, findFrom_last (Nat.not_lt.mp h) hfragment hskip]
    exact fun a ha => absurd ha List.not_mem_nil

/-- The chain does not go back. -/
theorem le_lastFrom (m : PacketMemory) (packetSize offset : Nat) (proto : UInt8) :
    offset ≤ (lastFrom m packetSize offset proto).1 := by
  fun_induction lastFrom m packetSize offset proto with
  | case1 offset proto _ ih => omega
  | case2 offset proto _ => exact Nat.le_refl _

/-- Where the chain ends at a header that is skipped, its length is not in the packet. -/
theorem lastFrom_skipped (m : PacketMemory) (packetSize offset : Nat) (proto : UInt8)
    (h : IsSkipped (lastFrom m packetSize offset proto).2) :
    packetSize < (lastFrom m packetSize offset proto).1 + 2 := by
  fun_induction lastFrom m packetSize offset proto with
  | case1 offset proto _ ih => exact ih h
  | case2 offset proto hend => exact Nat.not_le.mp fun hle => hend ⟨h, hle⟩

/-- What the loop returns: the header the chain ends at, if four of its bytes are in the packet. -/
theorem findFrom_value (m : PacketMemory) (packetSize offset : Nat) (proto : UInt8) :
    let last := lastFrom m packetSize offset proto
    let found := ((findFrom packetSize offset proto).run m).value
    (packetSize < last.1 + 4 → found.1 = none) ∧
      (last.1 + 4 ≤ packetSize → found = if last.2 = ipprotoFragment then
        (if (m (last.1 + 2)).toNat < 4 then some (last.1 + 8) else none, m last.1)
      else (some last.1, last.2)) := by
  dsimp only
  induction offset, proto using findFrom.induct packetSize with
  | case1 offset proto h =>
    have hle := le_lastFrom m packetSize offset proto
    rw [findFrom_outside h]
    exact ⟨fun _ => rfl, fun hin => by omega⟩
  | case2 offset h =>
    have hend : lastFrom m packetSize offset ipprotoFragment = (offset, ipprotoFragment) := by
      rw [lastFrom, if_neg fun hc => absurd hc.1 (by decide)]
    rw [findFrom_fragment (Nat.not_lt.mp h), hend]
    exact ⟨fun hout => absurd hout h, fun _ => rfl⟩
  | case3 offset proto h _ hskip ih =>
    have hnext : lastFrom m packetSize offset proto =
        lastFrom m packetSize (offset + 8 + (m (offset + 1)).toNat * 8) (m offset) := by
      rw [lastFrom, if_pos ⟨hskip, by omega⟩]
    rw [findFrom_skip (Nat.not_lt.mp h) hskip, hnext]
    exact ih _ _
  | case4 offset proto h hfragment hskip =>
    have hend : lastFrom m packetSize offset proto = (offset, proto) := by
      rw [lastFrom, if_neg fun hc => hskip hc.1]
    rw [findFrom_last (Nat.not_lt.mp h) hfragment hskip, hend]
    exact ⟨fun hout => absurd hout h, fun _ => (if_neg hfragment).symm⟩

/-! ## The function -/

theorem findTransportHeader_of_not (n : UInt32) (h : ¬ IsIpv6 m) :
    (findTransportHeader n).run m = ⟨(none, 0), m, [⟨0, 1⟩]⟩ := by
  simp only [findTransportHeader, Traced.run_bind, byteAt, Traced.run_read, Traced.run_cond]
  rw [bne_iff_ne.mpr h]
  rfl

theorem findTransportHeader_of_isIpv6 (n : UInt32) (h : IsIpv6 m) :
    (findTransportHeader n).run m =
      let found := (findFrom n.toNat 40 (m 6)).run m
      ⟨found.value, found.state, ⟨0, 1⟩ :: ⟨6, 1⟩ :: found.spans⟩ := by
  simp only [findTransportHeader, Traced.run_bind, byteAt, Traced.run_read, Traced.run_cond]
  rw [bne_eq_false_iff_eq.mpr h]
  rfl

/-- The function reads inside of the packet just when the fields it reads first are there. -/
theorem findTransportHeader_within_iff (n : UInt32) (m : PacketMemory) :
    (findTransportHeader n).Within n.toNat m ↔ 1 ≤ n.toNat ∧ (IsIpv6 m → 7 ≤ n.toNat) := by
  have hone (i : Nat) : Span.Within n.toNat ⟨i, 1⟩ ↔ i + 1 ≤ n.toNat := by
    show (1 = 0 ∨ i + 1 ≤ n.toNat) ↔ _
    omega
  unfold Traced.Within
  by_cases h : IsIpv6 m
  · have hloop := findFrom_within m n.toNat 40 (m 6)
    rw [findTransportHeader_of_isIpv6 n h]
    simp only [List.forall_mem_cons, hone, h, true_implies]
    exact and_congr_right fun _ => and_iff_left hloop
  · rw [findTransportHeader_of_not n h]
    simp only [List.forall_mem_cons, hone, h, false_implies, and_true]
    exact and_iff_left fun a ha => absurd ha List.not_mem_nil

theorem afterHeaders_fragment {size : Nat} (h : (lastHeader m size).2 = ipprotoFragment) :
    afterHeaders m size = ((lastHeader m size).1 + 8, m (lastHeader m size).1) := if_pos h

theorem afterHeaders_last {size : Nat} (h : (lastHeader m size).2 ≠ ipprotoFragment) :
    afterHeaders m size = lastHeader m size := if_neg h

/-- When no transport header is found in an IPv6 packet. -/
theorem found_none_iff {n : UInt32} (h : IsIpv6 m) :
    ((findTransportHeader n).run m).value.1 = none ↔ n.toNat < (lastHeader m n.toNat).1 + 4 ∨
      (lastHeader m n.toNat).2 = ipprotoFragment ∧
        4 ≤ (m ((lastHeader m n.toNat).1 + 2)).toNat := by
  obtain ⟨hout, hin⟩ := findFrom_value m n.toNat 40 (m 6)
  rw [← lastHeader] at hout hin
  rw [findTransportHeader_of_isIpv6 n h]
  dsimp only
  rcases Nat.lt_or_ge n.toNat ((lastHeader m n.toNat).1 + 4) with hlt | hge
  · exact iff_of_true (hout hlt) (.inl hlt)
  · rw [hin hge]
    split
    · next hproto => simp [hproto, Nat.not_lt.mpr hge]
    · next hproto => simp [hproto, Nat.not_lt.mpr hge]

/-- What is found is what follows the extension headers. -/
theorem value_of_found {n : UInt32} (h : IsIpv6 m)
    (hfound : ((findTransportHeader n).run m).value.1 ≠ none) :
    ((findTransportHeader n).run m).value =
      (some (afterHeaders m n.toNat).1, (afterHeaders m n.toNat).2) := by
  obtain ⟨-, hin⟩ := findFrom_value m n.toNat 40 (m 6)
  rw [← lastHeader] at hin
  obtain ⟨hge, hsmall⟩ := not_or.mp (mt (found_none_iff h).mpr hfound)
  rw [findTransportHeader_of_isIpv6 n h]
  dsimp only
  rw [hin (Nat.not_lt.mp hge)]
  split
  · next hproto =>
    rw [afterHeaders_fragment hproto, if_pos (Nat.not_le.mp fun hc => hsmall ⟨hproto, hc⟩)]
  · next hproto => rw [afterHeaders_last hproto]

/-- The function is right where it finds nothing just in what has no transport header. -/
theorem findsTransport_iff_none (n : UInt32) (m : PacketMemory) : FindsTransport n m ↔
    (findTransportHeader n).Within n.toNat m ∧ (IsIpv6 m →
      (((findTransportHeader n).run m).value.1 = none ↔
        IsLaterFragment m n.toNat ∨ LeavesPacket m n.toNat)) := by
  constructor
  · intro h
    refine ⟨h.inside, fun hv => ⟨fun hnone => ?_, fun hc => hc.elim (h.later hv) (h.leaves hv)⟩⟩
    by_contra hc
    obtain ⟨hlater, hleaves⟩ := not_or.mp hc
    rw [(h.otherwise hv hlater hleaves).1] at hnone
    cases hnone
  · rintro ⟨hinside, hiff⟩
    refine ⟨hinside, fun hv hc => (hiff hv).mpr (.inl hc), fun hv hc => (hiff hv).mpr (.inr hc),
      fun hv hlater hleaves => ⟨?_, Nat.not_le.mp fun hc => hleaves (.inr hc)⟩⟩
    exact value_of_found hv fun hnone => ((hiff hv).mp hnone).elim hlater hleaves

/-- The bits that are looked at are bits of the fragment offset. -/
theorem fragmentOffset_ne_zero (h : 4 ≤ (m (offset + 2)).toNat) : fragmentOffset m offset ≠ 0 := by
  unfold fragmentOffset
  omega

/-- The function finds the transport header right just when it can rely on what it does. -/
theorem findsTransport_iff (n : UInt32) (m : PacketMemory) :
    FindsTransport n m ↔ HeadersFit n m := by
  have hskipped : IsSkipped (lastHeader m n.toNat).2 →
      n.toNat < (lastHeader m n.toNat).1 + 2 := lastFrom_skipped m n.toNat 40 (m 6)
  have hfit : HeadersFit n m ↔ (1 ≤ n.toNat ∧ (IsIpv6 m → 7 ≤ n.toNat)) ∧ (IsIpv6 m →
      ((lastHeader m n.toNat).2 = ipprotoFragment →
        (lastHeader m n.toNat).1 + 4 ≤ n.toNat → (m ((lastHeader m n.toNat).1 + 2)).toNat < 4 →
          fragmentOffset m (lastHeader m n.toNat).1 = 0 ∧
            (lastHeader m n.toNat).1 + 8 < n.toNat) ∧
      (¬ IsSkipped (lastHeader m n.toNat).2 → (lastHeader m n.toNat).2 ≠ ipprotoFragment →
        (lastHeader m n.toNat).1 < n.toNat → (lastHeader m n.toNat).1 + 4 ≤ n.toNat)) :=
    ⟨fun h => ⟨h.first, fun hv => ⟨h.fragment hv, h.payload hv⟩⟩,
      fun h => ⟨h.1, fun hv => (h.2 hv).1, fun hv => (h.2 hv).2⟩⟩
  rw [findsTransport_iff_none, hfit, findTransportHeader_within_iff]
  refine and_congr_right fun _ => forall_congr' fun hv => ?_
  rw [found_none_iff hv]
  unfold IsLaterFragment LeavesPacket
  rcases Decidable.em (IsSkipped (lastHeader m n.toNat).2) with hskip | hskip
  · -- the length of an extension header is not in the packet
    have hfragment : (lastHeader m n.toNat).2 ≠ ipprotoFragment := fun hc => by
      rw [hc] at hskip
      revert hskip
      decide
    have hlt := hskipped hskip
    simp only [hskip, hfragment, false_implies, not_true_eq_false, true_or, or_true, and_true,
      false_and, or_false, iff_true]
    omega
  rcases Decidable.em ((lastHeader m n.toNat).2 = ipprotoFragment) with hproto | hproto
  · have hseen : 4 ≤ (m ((lastHeader m n.toNat).1 + 2)).toNat →
        fragmentOffset m (lastHeader m n.toNat).1 ≠ 0 := fragmentOffset_ne_zero
    rw [hproto] at hskip
    rw [afterHeaders_fragment hproto]
    simp only [hskip, hproto, true_implies, true_and, false_or, ne_eq, not_true_eq_false,
      false_implies, implies_true, and_true]
    omega
  · rw [afterHeaders_last hproto]
    simp only [hskip, hproto, false_implies, false_and, or_false, false_or, ne_eq,
      not_false_eq_true, true_implies, true_and]
    omega

/-- A packet whose fragment header has the offset 64 and names UDP. -/
def laterFragment : PacketMemory
  | 0 => 0x60
  | 6 => ipprotoFragment
  | 40 => 17
  | 43 => 0x40
  | _ => 0

/-- The later fragment is taken for a first one. -/
theorem later_fragment_found : ¬ ∀ (n : UInt32) (m : PacketMemory), FindsTransport n m := by
  intro hclaim
  have hfound := hclaim 100 laterFragment
  have hlast : lastHeader laterFragment (100 : UInt32).toNat = (40, ipprotoFragment) := by
    rw [lastHeader, lastFrom, if_neg fun hc => absurd hc.1 (by decide)]
    rfl
  have hv : IsIpv6 laterFragment := rfl
  have hnone := hfound.later hv ⟨by rw [hlast], by rw [hlast]; decide⟩
  rw [found_none_iff hv, hlast] at hnone
  revert hnone
  decide

end Ipv6Helper

end CutieProxy
