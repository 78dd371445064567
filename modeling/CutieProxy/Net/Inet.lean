import Mathlib.Data.List.Basic
import Mathlib.Data.Fin.VecNotation

/-!
# Addresses, ports and the memory of packed structures

`IpAddressV4` and `IpAddressV6` are `net::ip_address_v4` and `net::ip_address_v6` by their bytes. A
port is a `UInt16`, in host or in network order as the source has it at that place, and `htons`
converts between the two; `leBytes` is the memory of a 16-bit word of the machine, so the memory of
a port in network order is the port, high byte first (`leBytes_htons`). `Image` is the memory of a
packed structure and `Image.overlay` what a receive of fewer bytes than the structure has leaves of
it.
-/

namespace CutieProxy

/-- `net::ip_address_v4`, an `in_addr`, by its bytes `S_un_b`. -/
structure IpAddressV4 where
  sB1 : UInt8
  sB2 : UInt8
  sB3 : UInt8
  sB4 : UInt8
  deriving DecidableEq, Repr

/-- The address `0.0.0.0` a `net::ip_address_v4` starts as. -/
instance : Inhabited IpAddressV4 := ⟨⟨0, 0, 0, 0⟩⟩

/-- The bytes of an address, in memory order. -/
def IpAddressV4.toBytes (a : IpAddressV4) : List UInt8 := [a.sB1, a.sB2, a.sB3, a.sB4]

/-- `net::ip_address_v6`, an `in6_addr`, by its bytes. -/
abbrev IpAddressV6 := Vector UInt8 16

/-- The type parameter of `ip_subnet` and `filter`: the concept `ip_address`. -/
inductive IpFamily where
  | v4
  | v6
  deriving DecidableEq, Repr

/-- The addresses of a family. -/
abbrev IpFamily.Address : IpFamily → Type
  | .v4 => IpAddressV4
  | .v6 => IpAddressV6

instance (T : IpFamily) : DecidableEq T.Address :=
  match T with
  | .v4 => inferInstanceAs (DecidableEq IpAddressV4)
  | .v6 => inferInstanceAs (DecidableEq IpAddressV6)

/-- The address whose memory is zero. -/
instance (T : IpFamily) : Inhabited T.Address :=
  match T with
  | .v4 => inferInstanceAs (Inhabited IpAddressV4)
  | .v6 => ⟨Vector.replicate 16 0⟩

/-- `net::ip_subnet`. -/
structure Subnet (T : IpFamily) where
  address : T.Address
  mask : T.Address
  deriving DecidableEq

/-! ## Words in memory -/

/-- The 16-bit word whose memory is `lo`, `hi`. -/
def word16 (lo hi : UInt8) : UInt16 := UInt16.ofNat (lo.toNat + 256 * hi.toNat)

/-- The memory of a 16-bit word. -/
def leBytes (x : UInt16) : List UInt8 := [UInt8.ofNat (x.toNat % 256), UInt8.ofNat (x.toNat / 256)]

/-- The bytes of a 16-bit number, high byte first. -/
def beBytes (x : UInt16) : List UInt8 := [UInt8.ofNat (x.toNat / 256), UInt8.ofNat (x.toNat % 256)]

/-- `htons`, which swaps the two bytes of a word. -/
def htons (x : UInt16) : UInt16 := UInt16.ofNat (x.toNat / 256 + 256 * (x.toNat % 256))

/-- `ntohs`, the same function as `htons`. -/
def ntohs (x : UInt16) : UInt16 := htons x

theorem toNat_word16 (lo hi : UInt8) : (word16 lo hi).toNat = lo.toNat + 256 * hi.toNat := by
  have hlo := lo.toNat_lt
  have hhi := hi.toNat_lt
  rw [word16, UInt16.toNat_ofNat']
  exact Nat.mod_eq_of_lt (by omega)

theorem toNat_htons (x : UInt16) : (htons x).toNat = x.toNat / 256 + 256 * (x.toNat % 256) := by
  have := x.toNat_lt
  simp only [htons, UInt16.toNat_ofNat']
  omega

/-- Swapping the bytes twice gives the word back. -/
@[simp] theorem htons_htons (x : UInt16) : htons (htons x) = x := by
  apply UInt16.toNat.inj
  have := x.toNat_lt
  rw [toNat_htons, toNat_htons]
  omega

@[simp] theorem ntohs_htons (x : UInt16) : ntohs (htons x) = x := htons_htons x

@[simp] theorem htons_ntohs (x : UInt16) : htons (ntohs x) = x := htons_htons x

/-- A port in network order is stored high byte first. -/
theorem leBytes_htons (x : UInt16) : leBytes (htons x) = beBytes x := by
  have := x.toNat_lt
  simp only [leBytes, beBytes, toNat_htons]
  congr 2
  · omega
  · congr 1
    omega

/-- A port received high byte first is read by `ntohs`. -/
theorem toNat_ntohs_word16 (hi lo : UInt8) :
    (ntohs (word16 hi lo)).toNat = 256 * hi.toNat + lo.toNat := by
  have := hi.toNat_lt
  have := lo.toNat_lt
  rw [ntohs, toNat_htons, toNat_word16]
  omega

/-! ## Packed structures -/

/-- The memory of a packed structure of `n` bytes. -/
abbrev Image (n : Nat) := Fin n → UInt8

/-- The memory after the bytes `data` were received into it from its start on. -/
def Image.overlay {n : Nat} (data : List UInt8) (m : Image n) : Image n := fun i => data.getD i (m i)

end CutieProxy
