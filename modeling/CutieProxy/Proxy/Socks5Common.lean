import CutieProxy.Lib.Store
import CutieProxy.Net.Inet

/-!
# SOCKS5 messages

The structures of `proxy/socks5_common.h`, each by the bytes the code sends from it or the image a
reply is received into. A reply image starts out as the source initialises it, so a byte that was
never received still reads as an initial one. `UsernameAuth.init` copies the credentials with
`strcpy_s`, which stops at the first NUL and ends the process when the text does not fit its 255
bytes; `UsernameAuth.init_eq` says what it makes of any credentials that fit: the RFC 1929 message
of what is left of them.
-/

namespace CutieProxy

/-- `socks5_protocol_version`. -/
def socks5ProtocolVersion : UInt8 := 5

/-- `socks5_username_auth_version`. -/
def socks5UsernameAuthVersion : UInt8 := 1

/-- `socks5_username_max_length`. -/
def socks5UsernameMaxLength : Nat := 255

/-- Why the process ends in the middle of a handler. -/
inductive Abort where
  /-- The C runtime calls its invalid parameter handler. -/
  | invalidParameter
  /-- A null pointer is dereferenced. -/
  | nullPointer
  /-- An exception leaves a `noexcept` function. -/
  | uncaughtException
  deriving DecidableEq, Repr

/-- `socks5_negotiate_context`; a `std::string` is its bytes, of any length and with any content. -/
structure NegotiateContext where
  remoteAddress : IpAddressV4
  remotePort : UInt16
  socks5Username : Option (List UInt8) := none
  socks5Password : Option (List UInt8) := none

/-! ## Requests -/

/-- The bytes sent of `socks5_ident_req<2>`, with methods 0 (no authentication) and 2 (username and
password): the second method is left out when there is no user name. -/
def identReq (ctx : NegotiateContext) : List UInt8 :=
  if ctx.socks5Username.isNone then [socks5ProtocolVersion, 1, 0]
  else [socks5ProtocolVersion, 2, 0, 2]

/-- The bytes of a `socks5_req` for an IPv4 address; `destPort` is in network order. -/
def socks5Req (cmd addressType : UInt8) (destAddress : IpAddressV4) (destPort : UInt16) :
    List UInt8 :=
  [socks5ProtocolVersion, cmd, 0, addressType] ++ destAddress.toBytes ++ leBytes destPort

namespace UsernameAuth

/-- The characters of a C string: `std::string::c_str` up to the first NUL. -/
def cStr (s : List UInt8) : List UInt8 := s.takeWhile (· ≠ 0)

/-- `strcpy_s`: the characters of `src` and a NUL, when they fit. -/
def strcpyS (size : Nat) (src : List UInt8) (dst : Nat) (m : Nat → UInt8) :
    Except Abort (Nat → UInt8) :=
  if (cStr src).length < size then .ok (Store.write m dst (cStr src ++ [0]))
  else .error .invalidParameter

/-- `socks5_username_auth::init` on a zeroed structure: the bytes to send, or nothing (length `0`)
for credentials that are too long. -/
def init (username password : List UInt8) : Except Abort (Option (List UInt8)) :=
  if 255 < username.length ∨ 255 < password.length then .ok none
  else do
    let reserved ← strcpyS 255 username 0 fun _ => 0
    let reserved := Store.write reserved username.length [UInt8.ofNat password.length]
    let reserved ← strcpyS 255 password (username.length + 1) reserved
    return some ([socks5UsernameAuthVersion, UInt8.ofNat username.length] ++
      (List.range (username.length + 1 + password.length)).map reserved)

/-- The username/password message of RFC 1929. -/
def rfc1929 (username password : List UInt8) : List UInt8 :=
  [1, UInt8.ofNat username.length] ++ username ++ [UInt8.ofNat password.length] ++ password

end UsernameAuth

/-! ## Replies -/

/-- `socks5_ident_resp`, as it is initialised: version 5, method 0. -/
def identRespInit : Image 2 := ![socks5ProtocolVersion, 0]

/-- `socks5_resp` for an IPv4 address, as it is initialised: version 5, reply 0. -/
def socks5RespInit : Image 10 := ![socks5ProtocolVersion, 0, 0, 0, 0, 0, 0, 0, 0, 0]

namespace Image

/-- `socks5_ident_resp::version`. -/
def version (m : Image 2) : UInt8 := m 0

/-- `socks5_ident_resp::method`, and the status of a username/password reply. -/
def method (m : Image 2) : UInt8 := m 1

/-- `socks5_resp::version`. -/
def respVersion (m : Image 10) : UInt8 := m 0

/-- `socks5_resp::reply`. -/
def reply (m : Image 10) : UInt8 := m 1

/-- `socks5_resp::bind_port`, in network order. -/
def bindPort (m : Image 10) : UInt16 := word16 (m 8) (m 9)

end Image

/-! ## What `init` sends -/

namespace UsernameAuth

variable {u p : List UInt8}

/-- A credential as the zeroed structure holds it: from the first NUL on, zeros. -/
def zeroTail (s : List UInt8) : List UInt8 :=
  cStr s ++ List.replicate (s.length - (cStr s).length) 0

theorem cStr_length_le (s : List UInt8) : (cStr s).length ≤ s.length :=
  (List.takeWhile_prefix _).length_le

theorem strcpyS_ok {size dst : Nat} {src : List UInt8} {m : Nat → UInt8}
    (h : (cStr src).length < size) :
    strcpyS size src dst m = .ok (Store.write m dst (cStr src ++ [0])) := if_pos h

theorem strcpyS_error {size dst : Nat} {src : List UInt8} {m : Nat → UInt8}
    (h : ¬ (cStr src).length < size) : strcpyS size src dst m = .error .invalidParameter := if_neg h

@[simp] theorem zeroTail_length (s : List UInt8) : (zeroTail s).length = s.length := by
  have := cStr_length_le s
  simp only [zeroTail, List.length_append, List.length_replicate]
  omega

/-- A credential is kept whole exactly when it holds nothing but zeros from its first NUL on. -/
theorem zeroTail_eq_self {s : List UInt8} : zeroTail s = s ↔ ∀ c ∈ s.dropWhile (· ≠ 0), c = 0 := by
  have hsplit := List.takeWhile_append_dropWhile (p := fun c : UInt8 => decide (c ≠ 0)) (l := s)
  have hlen : s.length - (cStr s).length = (s.dropWhile (· ≠ 0)).length := by
    have := congrArg List.length hsplit
    rw [List.length_append] at this
    simp only [cStr]
    omega
  rw [zeroTail, hlen]
  constructor
  · intro h c hc
    have htail := List.append_cancel_left (h.trans hsplit.symm)
    rw [← htail] at hc
    exact List.eq_of_mem_replicate hc
  · intro h
    rw [← List.eq_replicate_of_mem h]
    exact hsplit

theorem cStr_getD (s : List UInt8) (i : Nat) : (cStr s ++ [0]).getD i 0 = (zeroTail s).getD i 0 := by
  simp only [zeroTail, List.getD_eq_getElem?_getD, List.getElem?_append, List.getElem?_replicate]
  split
  · rfl
  · split
    · cases i - (cStr s).length <;> simp
    · cases i - (cStr s).length <;> simp

/-- `init` on credentials whose characters fit: the RFC 1929 message of the credentials as the
zeroed structure holds them. -/
theorem init_eq (hu : u.length ≤ 255) (hp : p.length ≤ 255) (hcu : (cStr u).length < 255)
    (hcp : (cStr p).length < 255) :
    init u p = .ok (some (rfc1929 (zeroTail u) (zeroTail p))) := by
  have hle := cStr_length_le u
  unfold init
  simp only [if_neg (show ¬ (255 < u.length ∨ 255 < p.length) by omega), bind, Except.bind,
    strcpyS_ok hcu, strcpyS_ok hcp, pure, Except.pure]
  generalize hm₁ : Store.write (fun _ => 0) 0 (cStr u ++ [0]) = m₁
  generalize hm₂ : Store.write m₁ u.length [UInt8.ofNat p.length] = m₂
  generalize hm₃ : Store.write m₂ (u.length + 1) (cStr p ++ [0]) = m₃
  have hzero : ∀ i, m₁ i = (zeroTail u).getD i 0 := fun i => by
    subst hm₁
    rw [← cStr_getD]
    simp [Store.write]
  -- the length of the password overwrites the NUL after the user name
  have hmid : m₂ u.length = UInt8.ofNat p.length := by
    subst hm₂
    simp [Store.write]
  have hlow : ∀ i ≤ u.length, m₃ i = m₂ i := fun i hi => by
    subst hm₃
    exact Store.write_of_notMem _ (.inl (by omega))
  have hhigh : ∀ i, m₂ (u.length + 1 + i) = 0 := fun i => by
    subst hm₂
    rw [Store.write_of_notMem _ (.inr (by simp only [List.length_singleton]; omega)), hzero,
      List.getD_eq_getElem?_getD, List.getElem?_eq_none (by rw [zeroTail_length]; omega)]
    rfl
  have huser : (List.range' 0 u.length).map m₃ = zeroTail u := by
    rw [← zeroTail_length u]
    refine Store.map_range'_eq (z := 0) fun i hi => ?_
    rw [zeroTail_length] at hi
    rw [Nat.zero_add, hlow i (by omega), ← hzero]
    subst hm₂
    exact Store.write_of_notMem _ (.inl hi)
  have hpass : (List.range' (u.length + 1) p.length).map m₃ = zeroTail p := by
    rw [← zeroTail_length p]
    refine Store.map_range'_eq (z := 0) fun i _ => ?_
    rw [← cStr_getD]
    subst hm₃
    simp only [Store.write, Nat.le_add_right, if_true, Nat.add_sub_cancel_left, hhigh]
  have hrange : List.range (u.length + 1 + p.length) =
      List.range' 0 u.length ++ [u.length] ++ List.range' (u.length + 1) p.length := by
    rw [List.range_eq_range', ← List.range'_append_1, ← List.range'_append_1]
    simp
  rw [hrange, List.map_append, List.map_append, huser, hpass, List.map_singleton,
    hlow _ (Nat.le_refl _), hmid]
  simp [rfc1929, socks5UsernameAuthVersion]

/-- `init` ends the process when the characters of a credential do not fit. -/
theorem init_abort (hu : u.length ≤ 255) (hp : p.length ≤ 255)
    (h : ¬ ((cStr u).length < 255 ∧ (cStr p).length < 255)) :
    init u p = .error .invalidParameter := by
  unfold init
  rw [if_neg (by omega)]
  by_cases hcu : (cStr u).length < 255
  · have hcp : ¬ (cStr p).length < 255 := fun hcp => h ⟨hcu, hcp⟩
    simp only [bind, Except.bind, strcpyS_ok hcu, strcpyS_error hcp]
  · simp only [bind, Except.bind, strcpyS_error hcu]

/-- The RFC 1929 message determines the credentials it is made of. -/
theorem rfc1929_inj {u' p' : List UInt8} (hu : u'.length = u.length) (hp : p'.length = p.length) :
    rfc1929 u' p' = rfc1929 u p ↔ u' = u ∧ p' = p := by
  constructor
  · intro h
    simp only [rfc1929, hu, hp, List.append_assoc, List.append_cancel_left_eq] at h
    have hsplit := List.append_inj h hu
    exact ⟨hsplit.1, List.append_cancel_left hsplit.2⟩
  · rintro ⟨rfl, rfl⟩
    rfl

end UsernameAuth

end CutieProxy
