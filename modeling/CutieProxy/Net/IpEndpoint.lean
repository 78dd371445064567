import CutieProxy.Lib.HashKey
import CutieProxy.Net.IpSubnet
import CutieProxy.Net.Packet

/-!
# Endpoints and sessions as keys

The operators `==` and `!=` of addresses, endpoints and sessions, and their hashes, on which the
unordered maps of the source rest. An endpoint without a scope equals every endpoint of its address
and port, so equality does not pass on across it: `keys_lawful` says when it does. Among keys that
have scopes at the same ends it is `=` (`equals_iff_eq`), so a map of such keys is a table
(`IpEndpoint.find_bind`, `IpSession.find_bind`). Such are the keys of the redirections, which lack a
scope, and those `process_lookup` is filled with, of which the IPv6 ones have one.

The hashes of integers are the standard library's and a parameter; `std::size_t` has 64 bits.
-/

namespace CutieProxy

/-! ## Addresses -/

/-- `memcmp` of two ranges of the same length: the difference of the first bytes that differ. -/
def memcmp : List UInt8 → List UInt8 → Int
  | a :: as, b :: bs => if a = b then memcmp as bs else (a.toNat : Int) - b.toNat
  | _, _ => 0

/-- `std::hash` of the integers. -/
structure StdHash where
  uint32 : UInt32 → UInt64
  sizeT : UInt64 → UInt64

/-- `ip_address_v6::operator uint32_t`. -/
def toUint32 (a : IpAddressV6) : UInt32 :=
  UInt32.ofNat (dword a 0) ^^^ UInt32.ofNat (dword a 1) ^^^ UInt32.ofNat (dword a 2) ^^^
    UInt32.ofNat (dword a 3)

namespace IpFamily

/-- `operator ==` of an address. -/
def equals : (T : IpFamily) → T.Address → T.Address → Bool
  | .v4, a, rhs => IpAddressV4.sAddr a == IpAddressV4.sAddr rhs
  | .v6, a, rhs => memcmp a.toList rhs.toList == 0

/-- `operator !=` of an address. -/
def differs : (T : IpFamily) → T.Address → T.Address → Bool
  | .v4, a, rhs => IpAddressV4.sAddr a != IpAddressV4.sAddr rhs
  | .v6, a, rhs => memcmp a.toList rhs.toList != 0

/-- `std::hash` of an address. -/
def hash (std : StdHash) : (T : IpFamily) → T.Address → UInt64
  | .v4, ip => std.uint32 (UInt32.ofNat (IpAddressV4.sAddr ip))
  | .v6, ip => std.uint32 (toUint32 ip)

end IpFamily

variable {T : IpFamily}

/-! ## Endpoints -/

namespace IpEndpoint

/-- `ip_endpoint::operator ==`. -/
def equals (a rhs : IpEndpoint T.Address) : Bool :=
  match a.scopeId, rhs.scopeId with
  | some scope, some rhsScope => T.equals a.ip rhs.ip && a.port == rhs.port && scope == rhsScope
  | _, _ => T.equals a.ip rhs.ip && a.port == rhs.port

/-- `ip_endpoint::operator !=`. -/
def differs (a rhs : IpEndpoint T.Address) : Bool :=
  match a.scopeId, rhs.scopeId with
  | some scope, some rhsScope => T.differs a.ip rhs.ip || a.port != rhs.port || scope != rhsScope
  | _, _ => T.differs a.ip rhs.ip || a.port != rhs.port

/-- `std::hash` of an endpoint. -/
def hash (std : StdHash) (endpoint : IpEndpoint T.Address) : UInt64 :=
  std.sizeT (T.hash std endpoint.ip ^^^ endpoint.port.toUInt32.toUInt64)

/-- The endpoint in the middle lacks a scope, and the others have different ones. -/
def Bridges (a b c : IpEndpoint T.Address) : Prop :=
  b.scopeId = none ∧ ∃ scope ∈ a.scopeId, ∃ scope' ∈ c.scopeId, scope ≠ scope'

end IpEndpoint

/-! ## Sessions -/

namespace IpSession

/-- `ip_session::operator ==`. -/
def equals (a rhs : IpSession T.Address) : Bool :=
  a.localEndpoint.equals rhs.localEndpoint && a.remoteEndpoint.equals rhs.remoteEndpoint

/-- `ip_session::operator !=`. -/
def differs (a rhs : IpSession T.Address) : Bool :=
  a.localEndpoint.differs rhs.localEndpoint || a.remoteEndpoint.differs rhs.remoteEndpoint

/-- `std::hash` of a session. -/
def hash (std : StdHash) (session : IpSession T.Address) : UInt64 :=
  std.sizeT (session.localEndpoint.hash std ^^^ session.localEndpoint.port.toUInt32.toUInt64 ^^^
    session.remoteEndpoint.hash std ^^^ session.remoteEndpoint.port.toUInt32.toUInt64)

/-- At one of its ends the session in the middle lacks a scope, and the others have different
ones. -/
def Bridges (a b c : IpSession T.Address) : Prop :=
  a.localEndpoint.Bridges b.localEndpoint c.localEndpoint ∨
    a.remoteEndpoint.Bridges b.remoteEndpoint c.remoteEndpoint

end IpSession

/-! ## What the operators decide -/

theorem memcmp_eq_zero_iff {xs ys : List UInt8} (h : xs.length = ys.length) :
    memcmp xs ys = 0 ↔ xs = ys := by
  induction xs generalizing ys with
  | nil =>
    rw [List.eq_nil_of_length_eq_zero h.symm]
    exact iff_of_true rfl rfl
  | cons x xs ih =>
    cases ys with
    | nil => cases h
    | cons y ys =>
      rw [memcmp, List.cons.injEq]
      split
      · rename_i heq
        rw [ih (Nat.succ.inj h)]
        exact (and_iff_right heq).symm
      · rename_i hne
        have hbytes : x.toNat ≠ y.toNat := fun heq => hne (UInt8.toNat_inj.mp heq)
        refine iff_of_false ?_ fun heq => hne heq.1
        omega

/-- Addresses are equal when their bytes are. -/
theorem IpFamily.equals_iff {a rhs : T.Address} : T.equals a rhs = true ↔ a = rhs := by
  cases T with
  | v4 =>
    have hlength : (IpAddressV4.toBytes a).length = (IpAddressV4.toBytes rhs).length := rfl
    rw [equals, beq_iff_eq, IpAddressV4.sAddr, IpAddressV4.sAddr, Memory.ofMemory_inj hlength]
    obtain ⟨b₁, b₂, b₃, b₄⟩ := a
    obtain ⟨c₁, c₂, c₃, c₄⟩ := rhs
    simp [IpAddressV4.toBytes]
  | v6 =>
    have hlength : a.toList.length = rhs.toList.length := by
      rw [Vector.length_toList, Vector.length_toList]
    rw [equals, beq_iff_eq, memcmp_eq_zero_iff hlength, Vector.toList_inj]

theorem IpFamily.differs_eq (a rhs : T.Address) : T.differs a rhs = !T.equals a rhs := by
  cases T <;> rfl

namespace IpEndpoint

variable {a b c : IpEndpoint T.Address}

theorem equals_iff :
    a.equals b = true ↔ (a.ip = b.ip ∧ a.port = b.port) ∧ HashKey.Agree a.scopeId b.scopeId := by
  rw [equals]
  split
  · rename_i scope rhsScope ha hb
    rw [ha, hb, Bool.and_eq_true, Bool.and_eq_true, IpFamily.equals_iff, beq_iff_eq, beq_iff_eq]
    simp [HashKey.Agree]
  · rename_i hmissing
    have hagree : HashKey.Agree a.scopeId b.scopeId :=
      fun scope ha rhsScope hb => (hmissing scope rhsScope ha hb).elim
    rw [Bool.and_eq_true, IpFamily.equals_iff, beq_iff_eq]
    exact (and_iff_left hagree).symm

/-- Endpoints that both have a scope, or both lack one, are equal just when they are the same. -/
theorem equals_iff_eq (h : a.scopeId.isSome = b.scopeId.isSome) :
    a.equals b = true ↔ a = b := by
  rw [equals_iff, HashKey.Agree.iff_eq h]
  obtain ⟨ip, port, scopeId⟩ := a
  obtain ⟨ip', port', scopeId'⟩ := b
  rw [IpEndpoint.mk.injEq, and_assoc]

theorem differs_eq (a b : IpEndpoint T.Address) : a.differs b = !a.equals b := by
  rw [differs, equals]
  split <;> simp [IpFamily.differs_eq, bne]

/-- The hash looks at the address and the port alone. -/
theorem hash_eq {std : StdHash} (h : a.equals b = true) : a.hash std = b.hash std := by
  obtain ⟨⟨hip, hport⟩, -⟩ := equals_iff.mp h
  rw [hash, hash, hip, hport]

theorem lawful (std : StdHash) (T : IpFamily) :
    HashKey.Laws (equals (T := T)) differs (hash std) Bridges where
  refl a := equals_iff.mpr ⟨⟨rfl, rfl⟩, .refl _⟩
  symm h := by
    obtain ⟨⟨hip, hport⟩, hscope⟩ := equals_iff.mp h
    exact equals_iff.mpr ⟨⟨hip.symm, hport.symm⟩, hscope.symm⟩
  trans_iff hab hbc := by
    obtain ⟨⟨hip, hport⟩, hscope⟩ := equals_iff.mp hab
    obtain ⟨⟨hip', hport'⟩, hscope'⟩ := equals_iff.mp hbc
    rw [equals_iff, hscope.trans_iff hscope', Bridges]
    exact and_iff_right ⟨hip.trans hip', hport.trans hport'⟩
  differs_eq := differs_eq
  hash_eq := hash_eq

end IpEndpoint

namespace IpSession

variable {a b c : IpSession T.Address}

/-- Sessions that have scopes at the same ends are equal just when they are the same. -/
theorem equals_iff_eq (hlocal : a.localEndpoint.scopeId.isSome = b.localEndpoint.scopeId.isSome)
    (hremote : a.remoteEndpoint.scopeId.isSome = b.remoteEndpoint.scopeId.isSome) :
    a.equals b = true ↔ a = b := by
  rw [equals, Bool.and_eq_true, IpEndpoint.equals_iff_eq hlocal, IpEndpoint.equals_iff_eq hremote]
  obtain ⟨localEndpoint, remoteEndpoint⟩ := a
  obtain ⟨localEndpoint', remoteEndpoint'⟩ := b
  rw [IpSession.mk.injEq]

/-- The hash of a session is one of the hashes and the ports of its ends. -/
theorem hash_eq {std : StdHash}
    (hlocal : a.localEndpoint.equals b.localEndpoint = true)
    (hremote : a.remoteEndpoint.equals b.remoteEndpoint = true) : a.hash std = b.hash std := by
  obtain ⟨⟨-, hport⟩, -⟩ := IpEndpoint.equals_iff.mp hlocal
  obtain ⟨⟨-, hport'⟩, -⟩ := IpEndpoint.equals_iff.mp hremote
  rw [hash, hash, IpEndpoint.hash_eq hlocal, IpEndpoint.hash_eq hremote, hport, hport']

theorem lawful (std : StdHash) (T : IpFamily) :
    HashKey.Laws (equals (T := T)) differs (hash std) Bridges :=
  (IpEndpoint.lawful std T).both fun _ _ hlocal hremote => hash_eq hlocal hremote

end IpSession

/-! ## The operators as a whole -/

/-- Endpoints and sessions obey the laws of keys, except that equality does not pass on across a
missing scope. -/
theorem keys_lawful (std : StdHash) (T : IpFamily) :
    HashKey.Laws (IpEndpoint.equals (T := T)) IpEndpoint.differs (IpEndpoint.hash std)
        IpEndpoint.Bridges ∧
      HashKey.Laws (IpSession.equals (T := T)) IpSession.differs (IpSession.hash std)
        IpSession.Bridges :=
  ⟨IpEndpoint.lawful std T, IpSession.lawful std T⟩

/-- Port 80 of the link-local address `fe80::1`, on an interface if there is one. -/
def linkLocal (scopeId : Option UInt32) : IpEndpoint IpFamily.v6.Address :=
  ⟨#v[0xfe, 0x80, 0, 0, 0, 0, 0, 0, 0, 0, 0, 0, 0, 0, 0, 1], 80, scopeId⟩

/-- Two interfaces have the same link-local address. -/
theorem missing_scope_not_transitive :
    (IpEndpoint.equals (T := .v6) (linkLocal (some 1)) (linkLocal none) = true ∧
        IpEndpoint.equals (T := .v6) (linkLocal none) (linkLocal (some 2)) = true ∧
        IpEndpoint.equals (T := .v6) (linkLocal (some 1)) (linkLocal (some 2)) = false) ∧
      IpSession.equals (T := .v6) ⟨linkLocal (some 1), linkLocal none⟩
          ⟨linkLocal none, linkLocal none⟩ = true ∧
        IpSession.equals (T := .v6) ⟨linkLocal none, linkLocal none⟩
          ⟨linkLocal (some 2), linkLocal none⟩ = true ∧
        IpSession.equals (T := .v6) ⟨linkLocal (some 1), linkLocal none⟩
          ⟨linkLocal (some 2), linkLocal none⟩ = false := by
  decide

/-! ## Look-ups -/

/-- A map whose keys all have a scope, or all lack one, holds for a key what it holds for the key
that is found. -/
theorem IpEndpoint.find_bind {ν : Type} {std : StdHash} {keys : List (IpEndpoint T.Address)}
    {value : IpEndpoint T.Address → Option ν} {k : IpEndpoint T.Address}
    (hkeys : ∀ x, x ∈ keys ↔ (value x).isSome = true)
    (hscopes : ∀ x ∈ keys, x.scopeId.isSome = k.scopeId.isSome) :
    (HashKey.find IpEndpoint.equals (IpEndpoint.hash std) keys k).bind value = value k :=
  (IpEndpoint.lawful std T).find_bind hkeys fun x hx => (IpEndpoint.equals_iff_eq (hscopes x hx)).mp

/-- And so does a map of sessions that have scopes at the same ends. -/
theorem IpSession.find_bind {ν : Type} {std : StdHash} {keys : List (IpSession T.Address)}
    {value : IpSession T.Address → Option ν} {k : IpSession T.Address}
    (hkeys : ∀ x, x ∈ keys ↔ (value x).isSome = true)
    (hscopes : ∀ x ∈ keys,
      x.localEndpoint.scopeId.isSome = k.localEndpoint.scopeId.isSome ∧
        x.remoteEndpoint.scopeId.isSome = k.remoteEndpoint.scopeId.isSome) :
    (HashKey.find IpSession.equals (IpSession.hash std) keys k).bind value = value k :=
  (IpSession.lawful std T).find_bind hkeys fun x hx =>
    (IpSession.equals_iff_eq (hscopes x hx).1 (hscopes x hx).2).mp

end CutieProxy
